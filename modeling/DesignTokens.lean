import DesignTokens.Collection.Basic
import DesignTokens.Collection.BuiltIn
import DesignTokens.CommandLine.Basic
import DesignTokens.CommandLine.Settings
import DesignTokens.Datum.Basic
import DesignTokens.Datum.Calendar
import DesignTokens.Datum.Sharing
import DesignTokens.Datum.Text
import DesignTokens.Disk.Path
import DesignTokens.Disk.Tree
import DesignTokens.Failure
import DesignTokens.Generator
import DesignTokens.Json.Basic
import DesignTokens.Main
import DesignTokens.Number.Double
import DesignTokens.Number.Reading
import DesignTokens.Number.Shortest
import DesignTokens.Number.Spelling
import DesignTokens.OrderedMap
import DesignTokens.Output
import DesignTokens.Proofs.Collection.Agreement
import DesignTokens.Proofs.Collection.Coherence
import DesignTokens.Proofs.Collection.Discovery
import DesignTokens.Proofs.Collection.Lookup
import DesignTokens.Proofs.Collection.Runs
import DesignTokens.Proofs.Collection.Stability
import DesignTokens.Proofs.Datum.Alike
import DesignTokens.Proofs.Disk.Descent
import DesignTokens.Proofs.Disk.Walk
import DesignTokens.Proofs.FirstFault
import DesignTokens.Proofs.Generator.Examination
import DesignTokens.Proofs.Generator.Undoing
import DesignTokens.Proofs.Json.Reading
import DesignTokens.Proofs.Json.RoundTrip
import DesignTokens.Proofs.Output.Artifacts
import DesignTokens.Proofs.Report.Passes
import DesignTokens.Proofs.Report.Verdict
import DesignTokens.Proofs.Service.Answers
import DesignTokens.Proofs.Service.Confinement
import DesignTokens.Proofs.Stylesheet.Cascade
import DesignTokens.Proofs.Stylesheet.Circularity
import DesignTokens.Proofs.Stylesheet.Compilation
import DesignTokens.Proofs.Stylesheet.Dangling
import DesignTokens.Proofs.Stylesheet.Decoding
import DesignTokens.Proofs.Stylesheet.Meaning
import DesignTokens.Proofs.Tailwind.Module
import DesignTokens.Proofs.Tailwind.Variables
import DesignTokens.Proofs.Text.Separator
import DesignTokens.Proofs.Text.Utf8
import DesignTokens.Proofs.Text.Words
import DesignTokens.Proofs.Theme.Canonical
import DesignTokens.Proofs.Theme.Rereading
import DesignTokens.Proofs.Value.References
import DesignTokens.Proofs.Workspace.Changes
import DesignTokens.Proofs.Workspace.Files
import DesignTokens.Proofs.Workspace.Folders
import DesignTokens.Proofs.Workspace.Outcome
import DesignTokens.Report
import DesignTokens.Service
import DesignTokens.Stylesheet
import DesignTokens.Tailwind
import DesignTokens.Text.Base64
import DesignTokens.Text.Blank
import DesignTokens.Text.Digit
import DesignTokens.Text.Lowercase
import DesignTokens.Text.Printable
import DesignTokens.Text.Quoted
import DesignTokens.Text.Search
import DesignTokens.Text.Utf8
import DesignTokens.Theme.Basic
import DesignTokens.Theme.Reading
import DesignTokens.Theme.Reference
import DesignTokens.Theme.Violation
import DesignTokens.Value
import DesignTokens.Workspace
import DesignTokens.Yaml.Document
import DesignTokens.Yaml.Layout.Block
import DesignTokens.Yaml.Layout.Page
import DesignTokens.Yaml.Layout.Scalar
import DesignTokens.Yaml.Node.Basic
import DesignTokens.Yaml.Node.Grammar
import DesignTokens.Yaml.Node.Merge
import DesignTokens.Yaml.Portion
import DesignTokens.Yaml.Scalar
import DesignTokens.Yaml.Source
import DesignTokens.Yaml.Tag
import DesignTokens.Yaml.Token.Basic
import DesignTokens.Yaml.Token.Name
import DesignTokens.Yaml.Token.Scalar
import DesignTokens.Yaml.Token.Stream
import DesignTokens.Proofs.Number.Digits
import DesignTokens.Proofs.Number.Rounding
import DesignTokens.Proofs.Number.Shortest
import DesignTokens.Proofs.Number.Figures
import DesignTokens.Proofs.Number.Spelling
import DesignTokens.Proofs.Number.CssText
import DesignTokens.Proofs.Value.Reprinting
import DesignTokens.Proofs.Value.Grammar
import DesignTokens.Proofs.Tailwind.Routing
import DesignTokens.Proofs.Number.Rewriting
import DesignTokens.Proofs.Collection.Schemas
import DesignTokens.Proofs.Service.Remains
import DesignTokens.Proofs.Disk.Rooted
import DesignTokens.Proofs.Workspace.Ways
import DesignTokens.Proofs.Output.Writing
import DesignTokens.Proofs.Collection.Provenance
import DesignTokens.Proofs.Collection.Copying
import DesignTokens.Proofs.Collection.Precedence
import DesignTokens.Proofs.Stylesheet.Removal
import DesignTokens.Proofs.Stylesheet.Verbatim
import DesignTokens.Proofs.Theme.Likeness
import DesignTokens.Proofs.Theme.Rearranging
import DesignTokens.Proofs.Stylesheet.Recoloring
import DesignTokens.Proofs.Stylesheet.Leakage
import DesignTokens.Proofs.Number.DocumentText
import DesignTokens.Proofs.Theme.Collisions
import DesignTokens.Proofs.Json.Strings
import DesignTokens.Proofs.Json.Scalars
import DesignTokens.Proofs.Json.Collections
import DesignTokens.Proofs.Json.Compact
import DesignTokens.Proofs.Json.Forms
import DesignTokens.Proofs.Service.Decoding
