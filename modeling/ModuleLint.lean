import ModuleLint.Main
import ModuleLint.TreeEdit
import ModuleLint.Json.Reader
import ModuleLint.Proofs.Checks
import ModuleLint.Proofs.Evaluation
import ModuleLint.Proofs.Switching
import ModuleLint.Proofs.Names
import ModuleLint.Proofs.Tree
import ModuleLint.Proofs.Walk
import ModuleLint.Proofs.Discovery
import ModuleLint.Proofs.ComputedFields
import ModuleLint.Proofs.Grouping
import ModuleLint.Proofs.Survey
import ModuleLint.Proofs.CrossReference
import ModuleLint.Proofs.Isolation
import ModuleLint.Proofs.Editing
import ModuleLint.Proofs.Exclusion
import ModuleLint.Proofs.Globs
import ModuleLint.Proofs.Failure
import ModuleLint.Proofs.Declarations
import ModuleLint.Proofs.Locations
import ModuleLint.Proofs.Excerpts
import ModuleLint.Proofs.Ranking
import ModuleLint.Proofs.Attribution
import ModuleLint.Proofs.Partition
import ModuleLint.Proofs.Relevance
import ModuleLint.Proofs.Schema
import ModuleLint.Proofs.JsonText
import ModuleLint.Proofs.Lossless
import ModuleLint.Proofs.Refusal
import ModuleLint.Proofs.Messages
import ModuleLint.Proofs.Records
import ModuleLint.Proofs.Arguments
import ModuleLint.Proofs.Strictness
import ModuleLint.Proofs.GlobLanguage
import ModuleLint.Proofs.Slashes
import ModuleLint.Proofs.Insertion
import ModuleLint.Proofs.Pruning
import ModuleLint.Proofs.OneLine
import ModuleLint.Proofs.Marks
import ModuleLint.Proofs.AnyDepth
import ModuleLint.Proofs.Subtrees
import ModuleLint.Proofs.Siblings
import ModuleLint.Proofs.Merging
import ModuleLint.Proofs.Composing
import ModuleLint.Proofs.Routes
import ModuleLint.Proofs.Attaching
import ModuleLint.Proofs.Directories
import ModuleLint.Proofs.Rows
import ModuleLint.Proofs.Definitions
import ModuleLint.Proofs.Wiring
import ModuleLint.Proofs.Homes
import ModuleLint.Proofs.Bindings
import ModuleLint.Proofs.Renumbering
import ModuleLint.Proofs.Dialects
import ModuleLint.Proofs.Decoration
import ModuleLint.Proofs.Places
import ModuleLint.Proofs.Extracted
import ModuleLint.Proofs.LineOrder
import ModuleLint.Proofs.Comments
import ModuleLint.Proofs.Ownership
import ModuleLint.Proofs.Giving
import ModuleLint.Proofs.OrderlyExpressions
import ModuleLint.Proofs.OrderlyStatements
