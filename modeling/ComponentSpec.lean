import ComponentSpec.Check.Accessibility
import ComponentSpec.Check.Basic
import ComponentSpec.Check.Performance
import ComponentSpec.Check.Security
import ComponentSpec.Check.Table
import ComponentSpec.Coverage
import ComponentSpec.Datum
import ComponentSpec.Diagnostics
import ComponentSpec.Diagnostics.Journal
import ComponentSpec.Diagnostics.Session
import ComponentSpec.Element.Basic
import ComponentSpec.Fault
import ComponentSpec.Fields
import ComponentSpec.Files.Path
import ComponentSpec.Files.Store
import ComponentSpec.Inspection
import ComponentSpec.Number.Basic
import ComponentSpec.Number.Binary64
import ComponentSpec.Number.Digits
import ComponentSpec.Number.Numeral
import ComponentSpec.Number.Rounding
import ComponentSpec.Preset.Builtin
import ComponentSpec.Preset.Catalog
import ComponentSpec.Preset.Service
import ComponentSpec.Preset.Session
import ComponentSpec.Reading.Basic
import ComponentSpec.Reading.Element
import ComponentSpec.Reading.Report
import ComponentSpec.Reading.Scalar
import ComponentSpec.Reading.Spec
import ComponentSpec.Reading.Spelling
import ComponentSpec.Report
import ComponentSpec.Server
import ComponentSpec.Server.Session
import ComponentSpec.Settings
import ComponentSpec.Spec.Basic
import ComponentSpec.Spec.Blocks
import ComponentSpec.Spec.Body
import ComponentSpec.Spec.Properties
import ComponentSpec.Spec.Read
import ComponentSpec.Spec.Requirement
import ComponentSpec.Spec.Rules
import ComponentSpec.Spec.Sections
import ComponentSpec.Spec.Style
import ComponentSpec.Suggestion
import ComponentSpec.Text.Blank
import ComponentSpec.Text.Case
import ComponentSpec.Text.Case.Table
import ComponentSpec.Text.Caseless
import ComponentSpec.Text.CodePoints
import ComponentSpec.Text.Digit
import ComponentSpec.Text.Printable
import ComponentSpec.Text.Quoted
import ComponentSpec.Text.Scan
import ComponentSpec.Text.Word
import ComponentSpec.Value.Basic
import ComponentSpec.Value.Read
import ComponentSpec.Yaml.Binary
import ComponentSpec.Yaml.Building
import ComponentSpec.Yaml.Content
import ComponentSpec.Yaml.Cursor
import ComponentSpec.Yaml.Date
import ComponentSpec.Yaml.Document
import ComponentSpec.Yaml.Error
import ComponentSpec.Yaml.Node
import ComponentSpec.Yaml.Numeral
import ComponentSpec.Yaml.Outline
import ComponentSpec.Yaml.Page
import ComponentSpec.Yaml.Scalar
import ComponentSpec.Yaml.Tag
import ComponentSpec.Yaml.TextStyle
import ComponentSpec.Yaml.Token
import ComponentSpec.Yaml.Writer
import ComponentSpec.Proofs.Inspection.Item
import ComponentSpec.Proofs.Inspection.Run
import ComponentSpec.Proofs.Inspection.Accounting
import ComponentSpec.Proofs.Inspection.Coverage
import ComponentSpec.Proofs.Inspection.Isolation
import ComponentSpec.Proofs.Inspection.Verdict
import ComponentSpec.Proofs.Spec.Segmentation
import ComponentSpec.Proofs.Inspection.Exits
import ComponentSpec.Proofs.Preset.Caching
import ComponentSpec.Proofs.Number.Range
import ComponentSpec.Proofs.Value.Form
import ComponentSpec.Proofs.Value.Size
import ComponentSpec.Proofs.Spec.Fragment
import ComponentSpec.Proofs.Check.Answers
import ComponentSpec.Proofs.Inspection.Faults
import ComponentSpec.Proofs.Server.Agreement
import ComponentSpec.Proofs.Spec.Sections
import ComponentSpec.Proofs.Text.LineEnds
import ComponentSpec.Proofs.Spec.LineEnds
import ComponentSpec.Proofs.Spec.SingleRule
import ComponentSpec.Proofs.Number.Order
import ComponentSpec.Proofs.Check.LimitField
import ComponentSpec.Proofs.Check.Sides
import ComponentSpec.Proofs.Element.Descendants
import ComponentSpec.Proofs.Inspection.Limits
import ComponentSpec.Proofs.Diagnostics.Session
import ComponentSpec.Proofs.Text.Padding
import ComponentSpec.Proofs.Value.Written
import ComponentSpec.Proofs.Spec.LastLine
import ComponentSpec.Proofs.Spec.Layout
import ComponentSpec.Proofs.Spec.BodyText
import ComponentSpec.Proofs.Spec.Indentation
import ComponentSpec.Proofs.Spec.Content
import ComponentSpec.Proofs.Spec.LooseLines
import ComponentSpec.Proofs.Spec.RuleForm
import ComponentSpec.Proofs.Spec.FlatBody
import ComponentSpec.Proofs.Text.Occurrence
import ComponentSpec.Proofs.Text.Pattern
import ComponentSpec.Proofs.Check.Danger
import ComponentSpec.Proofs.Spec.Annotations
import ComponentSpec.Proofs.Spec.RequirementLine
import ComponentSpec.Proofs.Spec.PropertyLines
import ComponentSpec.Proofs.Number.Nearest
import ComponentSpec.Proofs.Coverage.Percentage
import ComponentSpec.Proofs.Text.SmallLetters
import ComponentSpec.Proofs.Text.Tags
import ComponentSpec.Proofs.Element.Markup
import ComponentSpec.Proofs.Element.Insertion
import ComponentSpec.Proofs.Check.BundleSize
import ComponentSpec.Proofs.Check.Images
import ComponentSpec.Proofs.Check.Links
import ComponentSpec.Proofs.Diagnostics.Verbosity
import ComponentSpec.Proofs.Number.IntegerNumeral
import ComponentSpec.Proofs.Number.LeadingInteger
import ComponentSpec.Proofs.Number.LeadingDigits
import ComponentSpec.Proofs.Number.BriefText
import ComponentSpec.Proofs.Check.ShownSizes
