import ClassLift.Attribute
import ClassLift.Binary64
import ClassLift.Buckets
import ClassLift.Category
import ClassLift.Category.Classify
import ClassLift.ClassName
import ClassLift.CommandLine.Arguments
import ClassLift.CommandLine.Help
import ClassLift.CommandLine.Run
import ClassLift.Document
import ClassLift.Extraction
import ClassLift.Field
import ClassLift.FileTree
import ClassLift.Journal
import ClassLift.Json
import ClassLift.Json.Encoding
import ClassLift.Main
import ClassLift.Path
import ClassLift.Proofs.Appending
import ClassLift.Proofs.Arguments
import ClassLift.Proofs.Buckets
import ClassLift.Proofs.Bytes
import ClassLift.Proofs.Canonical
import ClassLift.Proofs.Carrying
import ClassLift.Proofs.Choice
import ClassLift.Proofs.ClosedRule
import ClassLift.Proofs.Conservation
import ClassLift.Proofs.Containment
import ClassLift.Proofs.Crossing
import ClassLift.Proofs.Cutting
import ClassLift.Proofs.Documents
import ClassLift.Proofs.Endings
import ClassLift.Proofs.Groups
import ClassLift.Proofs.Halfway
import ClassLift.Proofs.History
import ClassLift.Proofs.Labels
import ClassLift.Proofs.Layout
import ClassLift.Proofs.Lines
import ClassLift.Proofs.Locality
import ClassLift.Proofs.Location
import ClassLift.Proofs.LongestKey
import ClassLift.Proofs.Minimal
import ClassLift.Proofs.Names
import ClassLift.Proofs.Occurrence
import ClassLift.Proofs.Offsets
import ClassLift.Proofs.OneLine
import ClassLift.Proofs.Order
import ClassLift.Proofs.Partition
import ClassLift.Proofs.Payloads
import ClassLift.Proofs.Places
import ClassLift.Proofs.Plan
import ClassLift.Proofs.Preserving
import ClassLift.Proofs.Reach
import ClassLift.Proofs.ReadBack
import ClassLift.Proofs.Reading
import ClassLift.Proofs.Record
import ClassLift.Proofs.Replacement
import ClassLift.Proofs.Requests
import ClassLift.Proofs.Results
import ClassLift.Proofs.RuleText
import ClassLift.Proofs.Runs
import ClassLift.Proofs.Sanitizing
import ClassLift.Proofs.Scan
import ClassLift.Proofs.Separation
import ClassLift.Proofs.Shown
import ClassLift.Proofs.Tokens
import ClassLift.Proofs.Trees
import ClassLift.Proofs.Trimming
import ClassLift.Proofs.Untouched
import ClassLift.Proofs.Variants
import ClassLift.Proofs.Windows
import ClassLift.Proofs.Writing
import ClassLift.Rule
import ClassLift.Service
import ClassLift.Service.Framework
import ClassLift.Service.Target
import ClassLift.Service.Wire
import ClassLift.Settings
import ClassLift.Settings.EnvironmentFile
import ClassLift.Settings.Load
import ClassLift.Stylesheet
import ClassLift.Suggestion
import ClassLift.Text.Blank
import ClassLift.Text.Lines
import ClassLift.Text.Numeral
import ClassLift.Text.Printable
import ClassLift.Text.Quoted
import ClassLift.Text.Uppercase
import ClassLift.Text.Utf8
import ClassLift.Text.WordChar
import ClassLift.Token
