import OfflineManifest.Command.Arguments
import OfflineManifest.Command.Check
import OfflineManifest.Command.Generate
import OfflineManifest.Command.Log
import OfflineManifest.Command.Options
import OfflineManifest.Command.Outcome
import OfflineManifest.Command.Program
import OfflineManifest.Command.Report
import OfflineManifest.Config.Basic
import OfflineManifest.Config.File
import OfflineManifest.Config.Json
import OfflineManifest.Config.Load
import OfflineManifest.Config.Toml
import OfflineManifest.Config.Validate
import OfflineManifest.Decimal.Binary64
import OfflineManifest.Decimal.Shortest
import OfflineManifest.Diagnostic.Basic
import OfflineManifest.Diagnostic.Json
import OfflineManifest.Diagnostic.Render
import OfflineManifest.Diagnostic.Shared
import OfflineManifest.Diagnostic.Sink
import OfflineManifest.Digest.Basic
import OfflineManifest.Digest.Mixing
import OfflineManifest.Digest.Short
import OfflineManifest.Digest.Stripes
import OfflineManifest.Duration
import OfflineManifest.Files.Error
import OfflineManifest.Files.Faulty
import OfflineManifest.Files.Memory
import OfflineManifest.Files.Site
import OfflineManifest.Files.Store
import OfflineManifest.Files.Tree
import OfflineManifest.Glob.Basic
import OfflineManifest.Json.Decode
import OfflineManifest.Json.Fault
import OfflineManifest.Json.Outline
import OfflineManifest.Json.Printer
import OfflineManifest.Json.Record
import OfflineManifest.Json.Token
import OfflineManifest.Json.Value
import OfflineManifest.KeyMap
import OfflineManifest.Main
import OfflineManifest.Manifest.AssetGroups
import OfflineManifest.Manifest.Basic
import OfflineManifest.Manifest.DataGroups
import OfflineManifest.Manifest.Error
import OfflineManifest.Manifest.Generate
import OfflineManifest.Manifest.Json
import OfflineManifest.Manifest.Run
import OfflineManifest.Navigation
import OfflineManifest.PatternSet
import OfflineManifest.Regex.Alphabet
import OfflineManifest.Regex.Atom
import OfflineManifest.Regex.Basic
import OfflineManifest.Regex.Bracket
import OfflineManifest.Regex.Break
import OfflineManifest.Regex.CharSet
import OfflineManifest.Regex.Cursor
import OfflineManifest.Regex.Error
import OfflineManifest.Regex.Parser
import OfflineManifest.Regex.Property
import OfflineManifest.Regex.PropertyName
import OfflineManifest.Regex.Shape
import OfflineManifest.Text.Path
import OfflineManifest.Text.Quoted
import OfflineManifest.Toml.Document
import OfflineManifest.Toml.Node
import OfflineManifest.Toml.Scalar
import OfflineManifest.Unicode.Age
import OfflineManifest.Unicode.AgeRuns
import OfflineManifest.Unicode.Category
import OfflineManifest.Unicode.CategoryRuns
import OfflineManifest.Unicode.CodeSet
import OfflineManifest.Unicode.Contributory
import OfflineManifest.Unicode.Folding
import OfflineManifest.Unicode.Listed
import OfflineManifest.Unicode.Property
import OfflineManifest.Unicode.Runs
import OfflineManifest.Unicode.Script
import OfflineManifest.Unicode.ScriptRuns
import OfflineManifest.Url
import OfflineManifest.Proofs.Regex.Language
import OfflineManifest.Proofs.Regex.Reading
import OfflineManifest.Proofs.Glob.Acceptance
import OfflineManifest.Proofs.Glob.Fragment
import OfflineManifest.Proofs.PatternSet
import OfflineManifest.Proofs.Text.ByteOrder
import OfflineManifest.Proofs.Text.Digits
import OfflineManifest.Proofs.Text.Split
import OfflineManifest.Proofs.Url
import OfflineManifest.Proofs.Glob.Segments
import OfflineManifest.Proofs.Glob.Trailing
import OfflineManifest.Proofs.Glob.Widening
import OfflineManifest.Proofs.Navigation.Rules
import OfflineManifest.Proofs.Navigation.Defaults
import OfflineManifest.Proofs.KeyMap
import OfflineManifest.Proofs.Manifest.Claiming
import OfflineManifest.Proofs.Manifest.Resolution
import OfflineManifest.Proofs.Manifest.NonInterference
import OfflineManifest.Proofs.Files.Tree
import OfflineManifest.Proofs.Files.Site
import OfflineManifest.Proofs.Files.Memory
import OfflineManifest.Proofs.Manifest.Publication
import OfflineManifest.Proofs.Digest.Pieces
import OfflineManifest.Proofs.Digest.Written
import OfflineManifest.Proofs.Files.Digests
import OfflineManifest.Proofs.Manifest.Precedence
import OfflineManifest.Proofs.Manifest.Merging
import OfflineManifest.Proofs.Json.Grammar
import OfflineManifest.Proofs.Json.Strings
import OfflineManifest.Proofs.Json.Numbers
import OfflineManifest.Proofs.Json.Denotation
import OfflineManifest.Proofs.Json.Documents
import OfflineManifest.Proofs.Json.Tokens
import OfflineManifest.Proofs.Json.Accepted
import OfflineManifest.Proofs.Json.Written
import OfflineManifest.Proofs.Json.Reading
import OfflineManifest.Proofs.Json.Rearranged
import OfflineManifest.Proofs.Json.Thorough
import OfflineManifest.Proofs.Manifest.RoundTrip
import OfflineManifest.Proofs.Command.Check
import OfflineManifest.Proofs.Json.Decoded
import OfflineManifest.Proofs.Manifest.Payloads
import OfflineManifest.Proofs.Files.Rewriting
import OfflineManifest.Proofs.Files.Walk
import OfflineManifest.Proofs.Files.Growth
import OfflineManifest.Proofs.Files.Listing
import OfflineManifest.Proofs.Files.History
import OfflineManifest.Proofs.Files.Location
import OfflineManifest.Proofs.Manifest.Republishing
import OfflineManifest.Proofs.Files.Snapshot
import OfflineManifest.Proofs.Manifest.Interchange
import OfflineManifest.Proofs.Duration
import OfflineManifest.Proofs.Config.Validation
import OfflineManifest.Proofs.Manifest.Lookup
import OfflineManifest.Proofs.Diagnostic.Interleaving
import OfflineManifest.Proofs.Files.Change
import OfflineManifest.Proofs.Command.Generate
import OfflineManifest.Proofs.Command.Report
import OfflineManifest.Proofs.Config.Normalisation
import OfflineManifest.Proofs.Config.Rearranged
import OfflineManifest.Proofs.Command.Complaints
import OfflineManifest.Proofs.Manifest.Rebasing
import OfflineManifest.Proofs.Navigation.Anchors
import OfflineManifest.Proofs.Diagnostic.Styles
import OfflineManifest.Proofs.Glob.Composition
