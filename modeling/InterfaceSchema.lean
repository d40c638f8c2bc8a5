import InterfaceSchema.Attachment
import InterfaceSchema.Bitflag.Cycle
import InterfaceSchema.Bitflag.Evaluation
import InterfaceSchema.Bitflag.Graph
import InterfaceSchema.Bitflag.Resolve
import InterfaceSchema.Config.Basic
import InterfaceSchema.Config.Yaml
import InterfaceSchema.Decimal.Basic
import InterfaceSchema.Decimal.Binary
import InterfaceSchema.Decimal.Shortest
import InterfaceSchema.Document.Basic
import InterfaceSchema.Document.Decode
import InterfaceSchema.Document.Encode
import InterfaceSchema.EnumBlock
import InterfaceSchema.Group
import InterfaceSchema.Json.Basic
import InterfaceSchema.Json.Printer
import InterfaceSchema.Json.Reader
import InterfaceSchema.Json.Shape
import InterfaceSchema.Kind
import InterfaceSchema.Literal
import InterfaceSchema.Model.Basic
import InterfaceSchema.Model.Encode
import InterfaceSchema.Numbering
import InterfaceSchema.Primitive
import InterfaceSchema.Problem
import InterfaceSchema.Proofs.Association
import InterfaceSchema.Proofs.Attachment
import InterfaceSchema.Proofs.Attachment.Recording
import InterfaceSchema.Proofs.Attachment.Repetition
import InterfaceSchema.Proofs.Attachment.Written
import InterfaceSchema.Proofs.Bitflag.Combination
import InterfaceSchema.Proofs.Bitflag.CycleCover
import InterfaceSchema.Proofs.Bitflag.CyclePath
import InterfaceSchema.Proofs.Bitflag.CycleSearch
import InterfaceSchema.Proofs.Bitflag.CycleWalk
import InterfaceSchema.Proofs.Bitflag.Dependency
import InterfaceSchema.Proofs.Bitflag.EvaluationSteps
import InterfaceSchema.Proofs.Bitflag.Extension
import InterfaceSchema.Proofs.Bitflag.Faults
import InterfaceSchema.Proofs.Bitflag.Known
import InterfaceSchema.Proofs.Bitflag.Meaning
import InterfaceSchema.Proofs.Bitflag.Progress
import InterfaceSchema.Proofs.Bitflag.RootCauses
import InterfaceSchema.Proofs.Bitflag.SharedMasks
import InterfaceSchema.Proofs.Bitflag.WalkSteps
import InterfaceSchema.Proofs.Bitflag.Width
import InterfaceSchema.Proofs.Declared
import InterfaceSchema.Proofs.Document.Record
import InterfaceSchema.Proofs.Document.RoundTrip
import InterfaceSchema.Proofs.Document.Text
import InterfaceSchema.Proofs.EnumBlock
import InterfaceSchema.Proofs.FirstPlaces
import InterfaceSchema.Proofs.Group
import InterfaceSchema.Proofs.Group.Faults
import InterfaceSchema.Proofs.Growth
import InterfaceSchema.Proofs.Holders
import InterfaceSchema.Proofs.Json.Printer
import InterfaceSchema.Proofs.Json.Text
import InterfaceSchema.Proofs.Json.Token
import InterfaceSchema.Proofs.Literal
import InterfaceSchema.Proofs.Model.Snapshot
import InterfaceSchema.Proofs.Numbering
import InterfaceSchema.Proofs.Numbering.ClosedForm
import InterfaceSchema.Proofs.Numbering.Collisions
import InterfaceSchema.Proofs.Numbering.Pinned
import InterfaceSchema.Proofs.Recorder
import InterfaceSchema.Proofs.Recorder.Declarations
import InterfaceSchema.Proofs.Recorder.Values
import InterfaceSchema.Proofs.Reference.Correspondence
import InterfaceSchema.Proofs.Reference.Forms
import InterfaceSchema.Proofs.Reference.Grammar
import InterfaceSchema.Proofs.Reference.Meaning
import InterfaceSchema.Proofs.Reference.Walk
import InterfaceSchema.Proofs.Regrouping
import InterfaceSchema.Proofs.Reordering
import InterfaceSchema.Proofs.Resolution.Aliases
import InterfaceSchema.Proofs.Resolution.Alignment
import InterfaceSchema.Proofs.Resolution.Answers
import InterfaceSchema.Proofs.Resolution.Attachments
import InterfaceSchema.Proofs.Resolution.BaseNames
import InterfaceSchema.Proofs.Resolution.Blocks
import InterfaceSchema.Proofs.Resolution.Clean
import InterfaceSchema.Proofs.Resolution.Completion
import InterfaceSchema.Proofs.Resolution.Contents
import InterfaceSchema.Proofs.Resolution.Cut
import InterfaceSchema.Proofs.Resolution.Extension
import InterfaceSchema.Proofs.Resolution.Join
import InterfaceSchema.Proofs.Resolution.LocalNames
import InterfaceSchema.Proofs.Resolution.Merging
import InterfaceSchema.Proofs.Resolution.Order
import InterfaceSchema.Proofs.Resolution.OwnNames
import InterfaceSchema.Proofs.Resolution.Pinning
import InterfaceSchema.Proofs.Resolution.Qualified
import InterfaceSchema.Proofs.Resolution.Qualifiers
import InterfaceSchema.Proofs.Resolution.References
import InterfaceSchema.Proofs.Resolution.Registration
import InterfaceSchema.Proofs.Resolution.Snapshot
import InterfaceSchema.Proofs.Resolution.Stages
import InterfaceSchema.Proofs.Resolution.Values
import InterfaceSchema.Proofs.Resolution.Width
import InterfaceSchema.Proofs.Stage
import InterfaceSchema.Proofs.Steps
import InterfaceSchema.Proofs.Uniqueness
import InterfaceSchema.Proofs.Universe
import InterfaceSchema.Proofs.Universe.Refusals
import InterfaceSchema.Reference.Classify
import InterfaceSchema.Reference.Field
import InterfaceSchema.Reference.Resolve
import InterfaceSchema.Report
import InterfaceSchema.Resolver
import InterfaceSchema.StructRole
import InterfaceSchema.Text.Hexadecimal
import InterfaceSchema.Text.Quoted
import InterfaceSchema.Text.Unprintable
import InterfaceSchema.Uniqueness
import InterfaceSchema.Universe
import InterfaceSchema.Workspace
import InterfaceSchema.Yaml.Block
import InterfaceSchema.Yaml.Node
import InterfaceSchema.Yaml.Property
import InterfaceSchema.Yaml.Scalar
import InterfaceSchema.Yaml.Text
import InterfaceSchema.Yaml.Token
