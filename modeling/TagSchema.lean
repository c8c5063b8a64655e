import TagSchema.Annotation
import TagSchema.Artifact
import TagSchema.Catalog.Basic
import TagSchema.Catalog.Flattened
import TagSchema.Catalog.Order
import TagSchema.Catalog.Tables
import TagSchema.CommandLine.Arguments
import TagSchema.CommandLine.Help
import TagSchema.CommandLine.Session
import TagSchema.Definition.Basic
import TagSchema.Definition.DeclaredType
import TagSchema.Definition.Hook
import TagSchema.Definition.Source
import TagSchema.Document.Number
import TagSchema.Document.Reader
import TagSchema.Document.Record
import TagSchema.Document.Value
import TagSchema.Emission.Authoring
import TagSchema.Emission.Cache
import TagSchema.Emission.Code
import TagSchema.Emission.Comparison
import TagSchema.Emission.Pass
import TagSchema.Emission.Revision
import TagSchema.Emission.Step
import TagSchema.Emission.Subject
import TagSchema.Emission.Validation
import TagSchema.Emission.Value
import TagSchema.Event
import TagSchema.Exclusion.Basic
import TagSchema.Exclusion.Resolution
import TagSchema.Failure
import TagSchema.Fault
import TagSchema.FieldType.Basic
import TagSchema.FieldType.Initial
import TagSchema.FieldType.Resolution
import TagSchema.Generation.Config
import TagSchema.Generation.Output
import TagSchema.Generation.Run
import TagSchema.Loading
import TagSchema.Main
import TagSchema.Number.Binary64
import TagSchema.Number.Notation
import TagSchema.Number.Shortest
import TagSchema.Proofs.Ancestry
import TagSchema.Proofs.Countdown
import TagSchema.Proofs.Coverage
import TagSchema.Proofs.DependencyOrder
import TagSchema.Proofs.DepthFirst
import TagSchema.Proofs.Locality
import TagSchema.Proofs.Naming
import TagSchema.Proofs.Placement
import TagSchema.Proofs.Precedence
import TagSchema.Proofs.Stepwise
import TagSchema.Registry
import TagSchema.Storage.Sink
import TagSchema.Storage.Tree
import TagSchema.Text.Blank
import TagSchema.Text.CodeRange
import TagSchema.Text.Escaped
import TagSchema.Text.Identifier
import TagSchema.Text.Letter
import TagSchema.Text.Lines
import TagSchema.Text.Pieces
import TagSchema.Text.Quoted
import TagSchema.Text.Uppercase
import TagSchema.Proofs.Acceptance
import TagSchema.Proofs.ExclusionTable
import TagSchema.Proofs.Runs
import TagSchema.Proofs.FileTree
import TagSchema.Proofs.Sinks
import TagSchema.Proofs.AllOrNothing
import TagSchema.Proofs.Concatenation
import TagSchema.Proofs.AnnotatedFields
import TagSchema.Proofs.Emittable
import TagSchema.Proofs.Bodies
import TagSchema.Proofs.AuthoringAgreement
import TagSchema.Proofs.Lockstep
import TagSchema.Proofs.Noninterference
import TagSchema.Proofs.Layout
import TagSchema.Proofs.Inheritance
import TagSchema.Proofs.CheckedExclusions
import TagSchema.Proofs.Flattening
import TagSchema.Proofs.ExactExclusions
import TagSchema.Proofs.DirectoryWalk
import TagSchema.Proofs.Identifiers
import TagSchema.Proofs.GeneratedNames
import TagSchema.Proofs.InheritanceCycles
import TagSchema.Proofs.SpreadDefaults
import TagSchema.Proofs.ExactNumbers
import TagSchema.Proofs.Literals
import TagSchema.Proofs.Masks
import TagSchema.Proofs.DomainChecks
import TagSchema.Proofs.CacheAgreement
import TagSchema.Proofs.TableRefinement
import TagSchema.Proofs.NestedSequences
import TagSchema.Proofs.SingleTokens
import TagSchema.Proofs.TagGrammar
import TagSchema.Proofs.Rows
import TagSchema.Proofs.Comments
import TagSchema.Proofs.SinglePrecision
import TagSchema.Proofs.Wrappers
import TagSchema.Proofs.IndexChecks
import TagSchema.Proofs.NormalForms
import TagSchema.Proofs.RangeChecks
import TagSchema.Proofs.Nesting
