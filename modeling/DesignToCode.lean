import DesignToCode.Text.Base64
import DesignToCode.Text.Blank
import DesignToCode.Text.Runs
import DesignToCode.Text.Case
import DesignToCode.Text.Digit
import DesignToCode.Text.Entity
import DesignToCode.Text.Identifier
import DesignToCode.Text.Quoted
import DesignToCode.Text.Percent
import DesignToCode.Text.Search
import DesignToCode.Text.Utf8
import DesignToCode.Text.Encoding
import DesignToCode.Number.Binary64
import DesignToCode.Number.Basic
import DesignToCode.Number.Shortest
import DesignToCode.Number.Fixed
import DesignToCode.Number.Numeral
import DesignToCode.Json.Basic
import DesignToCode.Json.Parser
import DesignToCode.Json.Printer
import DesignToCode.Reading.Location
import DesignToCode.Reading.Fault
import DesignToCode.Reading.Basic
import DesignToCode.Schema.Basic
import DesignToCode.Schema.Ids
import DesignToCode.Schema.Read
import DesignToCode.Schema.Builder
import DesignToCode.Schema.Quality
import DesignToCode.Schema.Version
import DesignToCode.Schema.Wire
import DesignToCode.Schema.Validation
import DesignToCode.Style.ClassName
import DesignToCode.Style.Declarations
import DesignToCode.Style.Sheet
import DesignToCode.Style.Document
import DesignToCode.Style.Printer
import DesignToCode.Markup.Node
import DesignToCode.Markup.Component
import DesignToCode.Markup.Document
import DesignToCode.Markup.Page
import DesignToCode.Markup.Printer
import DesignToCode.Framework.Artifact
import DesignToCode.Framework.Bootstrap
import DesignToCode.Framework.Tailwind
import DesignToCode.Framework.Lowering
import DesignToCode.Pipeline.Failure
import DesignToCode.Framework.Registry
import DesignToCode.Framework.Emission
import DesignToCode.Framework.Request
import DesignToCode.Web.Host
import DesignToCode.Web.Address
import DesignToCode.Web.Inflate
import DesignToCode.Web.Coding
import DesignToCode.Image.Basic
import DesignToCode.Image.Source
import DesignToCode.Capability.Extraction
import DesignToCode.Capability.Output
import DesignToCode.Capability.Prompt
import DesignToCode.Capability.Retry
import DesignToCode.Capability.Command
import DesignToCode.Settings.Environment
import DesignToCode.Settings.Run
import DesignToCode.Settings.Service
import DesignToCode.Capability.Server
import DesignToCode.Capability.Reply
import DesignToCode.Capability.Static
import DesignToCode.Capability.Backend
import DesignToCode.Capability.Records
import DesignToCode.Analysis.Assembly
import DesignToCode.Pipeline.Analysis
import DesignToCode.Pipeline.State
import DesignToCode.Pipeline.Runs
import DesignToCode.Log.Book
import DesignToCode.Service.Request
import DesignToCode.Service.Handling
import DesignToCode.Proofs.Except
import DesignToCode.Proofs.Text.Decimal
import DesignToCode.Proofs.Text.Words
import DesignToCode.Proofs.Text.Lines
import DesignToCode.Proofs.Text.Entity
import DesignToCode.Proofs.Text.Expression
import DesignToCode.Proofs.Text.Base64
import DesignToCode.Proofs.Text.Base64Encoding
import DesignToCode.Proofs.Number.Numeral
import DesignToCode.Proofs.Json.Fields
import DesignToCode.Proofs.Json.Finite
import DesignToCode.Proofs.Json.Strings
import DesignToCode.Proofs.Json.Settled
import DesignToCode.Proofs.Json.Numbers
import DesignToCode.Proofs.Json.Extent
import DesignToCode.Proofs.Json.Documents
import DesignToCode.Proofs.Reading.Basic
import DesignToCode.Proofs.Reading.Location
import DesignToCode.Proofs.Schema.Read
import DesignToCode.Proofs.Schema.RoundTrip
import DesignToCode.Proofs.Schema.Reread
import DesignToCode.Proofs.Schema.Gate
import DesignToCode.Proofs.Schema.Seen
import DesignToCode.Proofs.Schema.Stored
import DesignToCode.Proofs.Schema.Valid
import DesignToCode.Proofs.Schema.Verdict
import DesignToCode.Proofs.Schema.Reported
import DesignToCode.Proofs.Schema.Places
import DesignToCode.Proofs.Schema.Warnings
import DesignToCode.Proofs.Schema.Ids
import DesignToCode.Proofs.Schema.Builder
import DesignToCode.Proofs.Schema.Quality
import DesignToCode.Proofs.Schema.Findings
import DesignToCode.Proofs.Schema.Dangling
import DesignToCode.Proofs.Schema.SemanticVersion
import DesignToCode.Proofs.Schema.ExtraFields
import DesignToCode.Proofs.Web.Address
import DesignToCode.Proofs.Image.Limit
import DesignToCode.Proofs.Image.Refusal
import DesignToCode.Proofs.Image.Escape
import DesignToCode.Proofs.Image.Agreement
import DesignToCode.Proofs.Analysis.Placement
import DesignToCode.Proofs.Analysis.Pass
import DesignToCode.Proofs.Analysis.PassPlacement
import DesignToCode.Proofs.Analysis.PassRefinement
import DesignToCode.Proofs.Analysis.Assembly
import DesignToCode.Proofs.Analysis.Structure
import DesignToCode.Proofs.Analysis.Policies
import DesignToCode.Proofs.Analysis.Ambiguities
import DesignToCode.Proofs.Analysis.Unresolved
import DesignToCode.Proofs.Analysis.StrayReferences
import DesignToCode.Proofs.Style.ClassName
import DesignToCode.Proofs.Style.SectionClasses
import DesignToCode.Proofs.Style.Widths
import DesignToCode.Proofs.Style.MediaRules
import DesignToCode.Proofs.Markup.Page
import DesignToCode.Proofs.Markup.Component
import DesignToCode.Proofs.Markup.Carriers
import DesignToCode.Proofs.Style.Cascade
import DesignToCode.Proofs.Markup.Reader
import DesignToCode.Proofs.Markup.ReadBack
import DesignToCode.Proofs.Markup.ScriptReader
import DesignToCode.Proofs.Markup.ScriptReadBack
import DesignToCode.Proofs.Framework.Emission
import DesignToCode.Proofs.Framework.Bootstrap
import DesignToCode.Proofs.Framework.RuleCarriers
import DesignToCode.Proofs.Framework.Utilities
import DesignToCode.Proofs.Pipeline.CodeRuns
import DesignToCode.Proofs.Pipeline.Course
import DesignToCode.Proofs.Pipeline.AnalysisRuns
import DesignToCode.Proofs.Pipeline.Outcomes
import DesignToCode.Proofs.Pipeline.Exceptions
import DesignToCode.Proofs.Pipeline.Calls
import DesignToCode.Proofs.Framework.Arrangement
import DesignToCode.Proofs.Grouping
import DesignToCode.Proofs.Style.Nesting
import DesignToCode.Proofs.Text.Comment
import DesignToCode.Proofs.Style.Comments
import DesignToCode.Proofs.Framework.Overrides
import DesignToCode.Proofs.Framework.SharedTree
import DesignToCode.Proofs.Framework.Alike
import DesignToCode.Proofs.Framework.References
import DesignToCode.Proofs.Framework.Layers
import DesignToCode.Proofs.Framework.TargetLists
import DesignToCode.Proofs.Framework.WideGrids
import DesignToCode.Proofs.Framework.ClassTokens
import DesignToCode.Proofs.Framework.HeadingLevels
import DesignToCode.Proofs.Capability.Blocks
import DesignToCode.Proofs.Capability.Fences
import DesignToCode.Proofs.Capability.Surroundings
import DesignToCode.Proofs.Capability.Attempts
import DesignToCode.Proofs.Capability.Starts
import DesignToCode.Proofs.Capability.Pauses
import DesignToCode.Proofs.Framework.BlockOrder
import DesignToCode.Proofs.Framework.Requested
import DesignToCode.Proofs.Schema.BuilderRuns
