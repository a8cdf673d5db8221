import AssetLint.Main
import AssetLint.Proofs.FrontMatter.Lines
import AssetLint.Proofs.Registry.Agreement
import AssetLint.Proofs.Walk.Records
import AssetLint.Proofs.Path.Order
import AssetLint.Proofs.Summary.Merge
import AssetLint.Proofs.Summary.Order
import AssetLint.Proofs.Walk.Order
import AssetLint.Proofs.Registry.Multiplicity
import AssetLint.Proofs.Walk.Traces
import AssetLint.Proofs.Validate.Verdict
import AssetLint.Proofs.FileSystem.SameTree
import AssetLint.Proofs.Run.Flags
import AssetLint.Proofs.Registry.Locality
import AssetLint.Proofs.Validate.Fields
import AssetLint.Proofs.Path.Spelling
import AssetLint.Proofs.Run.Truncation
import AssetLint.Proofs.Registry.Spelling
import AssetLint.Proofs.Yaml.BlankLines
import AssetLint.Proofs.Yaml.BlankTokens
import AssetLint.Proofs.Yaml.BlankDocument
import AssetLint.Proofs.FrontMatter.BlankHeader
import AssetLint.Proofs.Yaml.DistinctKeys
import AssetLint.Proofs.Validate.Keys
import AssetLint.Proofs.Validate.Compliance
import AssetLint.Proofs.Report.Lines
import AssetLint.Proofs.Report.Runs
import AssetLint.Proofs.Json.Grammar
import AssetLint.Proofs.Json.Reader
import AssetLint.Proofs.Json.Document
import AssetLint.Proofs.Validate.Independence
import AssetLint.Proofs.FrontMatter.LineEndings
import AssetLint.Proofs.Decimal.Integers
import AssetLint.Proofs.Validate.Presence
import AssetLint.Proofs.Pattern.Search
import AssetLint.Proofs.Registry.FileNames
import AssetLint.Proofs.Validate.Relaxation
import AssetLint.Proofs.FileSystem.Dangling
import AssetLint.Proofs.FileSystem.Additions
import AssetLint.Proofs.Walk.PassedOver
import AssetLint.Proofs.Registry.NameFilter
import AssetLint.Proofs.Walk.Termination
