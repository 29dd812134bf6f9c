import CompiledViews.CommandLine.Arguments
import CompiledViews.CommandLine.Run
import CompiledViews.Controller.Basic
import CompiledViews.Controller.DataFile
import CompiledViews.Controller.Error
import CompiledViews.Controller.Registry
import CompiledViews.Data.Entries
import CompiledViews.Data.Json
import CompiledViews.Data.Toml
import CompiledViews.Data.Toml.Item
import CompiledViews.Data.Toml.Scalar
import CompiledViews.Data.Value
import CompiledViews.Data.Yaml
import CompiledViews.Data.Yaml.Cursor
import CompiledViews.Data.Yaml.Node
import CompiledViews.Data.Yaml.Plain
import CompiledViews.Data.Yaml.Scalar
import CompiledViews.Data.Yaml.Token
import CompiledViews.Decimal.Double
import CompiledViews.Decimal.Shortest
import CompiledViews.Directive.Builtin
import CompiledViews.Directive.Capability
import CompiledViews.Directive.Error
import CompiledViews.Directive.Occurrence
import CompiledViews.Directive.Registry
import CompiledViews.Directive.Rule
import CompiledViews.Disk.Basic
import CompiledViews.Disk.Change
import CompiledViews.Disk.Fault
import CompiledViews.Disk.Lookup
import CompiledViews.Main
import CompiledViews.Path
import CompiledViews.Proofs.Controller
import CompiledViews.Proofs.Controller.Merging
import CompiledViews.Proofs.Controller.Registering
import CompiledViews.Proofs.Directive.Arguments
import CompiledViews.Proofs.Directive.Enclosure
import CompiledViews.Proofs.Directive.Escape
import CompiledViews.Proofs.Directive.Expression
import CompiledViews.Proofs.Directive.Nesting
import CompiledViews.Proofs.Directive.Occurrences
import CompiledViews.Proofs.Directive.Parts
import CompiledViews.Proofs.Directive.Registration
import CompiledViews.Proofs.Directive.Replacing
import CompiledViews.Proofs.Directive.Scanning
import CompiledViews.Proofs.Directive.Tidy
import CompiledViews.Proofs.Directive.Translation
import CompiledViews.Proofs.Directive.Unescape
import CompiledViews.Proofs.Disk.Alike
import CompiledViews.Proofs.Disk.Confined
import CompiledViews.Proofs.Disk.Dated
import CompiledViews.Proofs.Disk.Edit
import CompiledViews.Proofs.Disk.Growth
import CompiledViews.Proofs.Disk.Run
import CompiledViews.Proofs.Disk.Sibling
import CompiledViews.Proofs.Disk.Trail
import CompiledViews.Proofs.Entries
import CompiledViews.Proofs.Failing
import CompiledViews.Proofs.Path.Components
import CompiledViews.Proofs.Path.Encoding
import CompiledViews.Proofs.Path.Names
import CompiledViews.Proofs.Settings.Absolute
import CompiledViews.Proofs.Settings.Loading
import CompiledViews.Proofs.Settings.Rerooting
import CompiledViews.Proofs.Settings.Starting
import CompiledViews.Proofs.Site.Alike
import CompiledViews.Proofs.Site.Containment
import CompiledViews.Proofs.Site.Delivery
import CompiledViews.Proofs.Site.Forcing
import CompiledViews.Proofs.Site.Freshness
import CompiledViews.Proofs.Site.Interference
import CompiledViews.Proofs.Site.Mirror
import CompiledViews.Proofs.Site.Response
import CompiledViews.Proofs.Site.Run
import CompiledViews.Proofs.Site.Service
import CompiledViews.Proofs.Template.Asking
import CompiledViews.Proofs.Template.Candid
import CompiledViews.Proofs.Template.Inclusion
import CompiledViews.Proofs.Template.Missing
import CompiledViews.Proofs.Template.Reading
import CompiledViews.Proofs.Template.Refusal
import CompiledViews.Proofs.Template.Tracking
import CompiledViews.Proofs.Template.Withholding
import CompiledViews.Proofs.Text.Bytes
import CompiledViews.Proofs.Text.Cutting
import CompiledViews.Proofs.ViewCache.Address
import CompiledViews.Proofs.ViewCache.Artifact
import CompiledViews.Proofs.ViewCache.Atomic
import CompiledViews.Proofs.ViewCache.Following
import CompiledViews.Proofs.ViewCache.Freshness
import CompiledViews.Proofs.ViewCache.Naming
import CompiledViews.Proofs.ViewCache.Refresh
import CompiledViews.Proofs.ViewEngine.Answers
import CompiledViews.Proofs.ViewEngine.Confinement
import CompiledViews.Proofs.ViewEngine.Faithful
import CompiledViews.Proofs.ViewEngine.Inclusion
import CompiledViews.Proofs.ViewEngine.Loading
import CompiledViews.Proofs.ViewEngine.Missing
import CompiledViews.Proofs.ViewEngine.Plain
import CompiledViews.Proofs.ViewEngine.Provenance
import CompiledViews.Proofs.ViewEngine.Rendering
import CompiledViews.Proofs.ViewEngine.Replacement
import CompiledViews.Proofs.ViewEngine.Sanitizing
import CompiledViews.Proofs.ViewEngine.Transparency
import CompiledViews.Proofs.ViewName
import CompiledViews.Settings.Basic
import CompiledViews.Settings.File
import CompiledViews.Settings.Load
import CompiledViews.Settings.Variable
import CompiledViews.Site.Basic
import CompiledViews.Site.Error
import CompiledViews.Site.Plan
import CompiledViews.Site.Request
import CompiledViews.Template.Evaluation
import CompiledViews.Template.Expression
import CompiledViews.Template.Expression.Constant
import CompiledViews.Template.Expression.Reader
import CompiledViews.Template.Fault
import CompiledViews.Template.Filter
import CompiledViews.Template.Item
import CompiledViews.Template.Number
import CompiledViews.Template.Operator
import CompiledViews.Template.Page
import CompiledViews.Template.Rendering
import CompiledViews.Template.Statement.Reader
import CompiledViews.Template.Token
import CompiledViews.Text.Alphanumeric
import CompiledViews.Text.Basic
import CompiledViews.Text.LetterCase
import CompiledViews.Text.Property
import CompiledViews.Text.Quoted
import CompiledViews.ViewCache.Basic
import CompiledViews.ViewEngine.Basic
import CompiledViews.ViewName
