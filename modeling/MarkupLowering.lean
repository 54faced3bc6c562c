import MarkupLowering.Attribute
import MarkupLowering.Batch
import MarkupLowering.Builtin
import MarkupLowering.Child
import MarkupLowering.Config
import MarkupLowering.Diagnostic
import MarkupLowering.Emission
import MarkupLowering.Fault
import MarkupLowering.Files
import MarkupLowering.Json.Fault
import MarkupLowering.Json.Number
import MarkupLowering.Json.Reader
import MarkupLowering.Json.Records
import MarkupLowering.Json.Writer
import MarkupLowering.Kebab
import MarkupLowering.Lowering
import MarkupLowering.Number.Binary64
import MarkupLowering.Number.Shortest
import MarkupLowering.Options
import MarkupLowering.Outline
import MarkupLowering.Outline.Plant
import MarkupLowering.Program
import MarkupLowering.Program.Naming
import MarkupLowering.Scope
import MarkupLowering.Script.Binding
import MarkupLowering.Script.Class
import MarkupLowering.Script.Cursor
import MarkupLowering.Script.Declaration
import MarkupLowering.Script.Exchange
import MarkupLowering.Script.Expression
import MarkupLowering.Script.Function
import MarkupLowering.Script.Literal
import MarkupLowering.Script.Markup
import MarkupLowering.Script.Module
import MarkupLowering.Script.Phrase
import MarkupLowering.Script.Statement
import MarkupLowering.Script.Token
import MarkupLowering.Script.Typing
import MarkupLowering.Script.Variable
import MarkupLowering.Style
import MarkupLowering.Tag
import MarkupLowering.Template
import MarkupLowering.Text.Blank
import MarkupLowering.Text.CodeRanges
import MarkupLowering.Text.Identifier
import MarkupLowering.Text.Letter
import MarkupLowering.Text.LowerCasing
import MarkupLowering.Text.Lowercase
import MarkupLowering.Text.Position
import MarkupLowering.Text.Quoted
import MarkupLowering.Text.Shown
import MarkupLowering.Text.Span
import MarkupLowering.Transform
import MarkupLowering.Tree
import MarkupLowering.Tree.Lower
import MarkupLowering.Proofs.Tree.Arena
import MarkupLowering.Proofs.Tree.Links
import MarkupLowering.Proofs.Tree.Meaning
import MarkupLowering.Proofs.Tree.Taking
import MarkupLowering.Proofs.Tree.Refinement
import MarkupLowering.Proofs.Template.Balance
import MarkupLowering.Proofs.Template.Serialisation
import MarkupLowering.Proofs.Outline.Growth
import MarkupLowering.Proofs.Outline.Planting
import MarkupLowering.Proofs.Template.Faults
import MarkupLowering.Proofs.Outline.Safety
import MarkupLowering.Proofs.Outline.Adequacy
import MarkupLowering.Proofs.Outline.Splicing
import MarkupLowering.Proofs.Template.Refusal
import MarkupLowering.Proofs.Tree.Spending
import MarkupLowering.Proofs.Tree.Runs
import MarkupLowering.Proofs.Tree.Places
import MarkupLowering.Proofs.Outline.Scoping
import MarkupLowering.Proofs.Program.Tables
import MarkupLowering.Proofs.Program.Naming
import MarkupLowering.Proofs.Program.Scoping
import MarkupLowering.Proofs.Outline.Separation
import MarkupLowering.Proofs.Template.FirstFault
import MarkupLowering.Proofs.Tree.LocalFaults
import MarkupLowering.Proofs.Text.Delimited
import MarkupLowering.Proofs.Emission.TemplateCalls
import MarkupLowering.Proofs.Text.Positions
import MarkupLowering.Proofs.Template.TagNames
import MarkupLowering.Proofs.Template.OpeningTags
import MarkupLowering.Proofs.Emission.ComponentCalls
import MarkupLowering.Proofs.Config.Building
import MarkupLowering.Proofs.Config.Builtins
import MarkupLowering.Proofs.Template.Carrying
import MarkupLowering.Proofs.Json.Numbers
import MarkupLowering.Proofs.Json.Values
import MarkupLowering.Proofs.Json.RoundTrip
import MarkupLowering.Proofs.Text.CodeRanges
import MarkupLowering.Proofs.Emission.Imports
import MarkupLowering.Proofs.Template.Steps
import MarkupLowering.Proofs.Text.CamelCase
import MarkupLowering.Proofs.Text.UpperCasing
import MarkupLowering.Proofs.Template.Classification
import MarkupLowering.Proofs.Outline.Cutting
