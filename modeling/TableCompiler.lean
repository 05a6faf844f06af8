import TableCompiler.Artifact.Basic
import TableCompiler.Artifact.Container
import TableCompiler.Calendar.Date
import TableCompiler.Calendar.Reader
import TableCompiler.Column.Convert
import TableCompiler.Column.Describe
import TableCompiler.Column.Dump
import TableCompiler.Column.Expr
import TableCompiler.Column.Failure
import TableCompiler.Column.Registry
import TableCompiler.Column.Resolve
import TableCompiler.Column.Storage
import TableCompiler.Column.Strategy
import TableCompiler.Compile
import TableCompiler.Csv.Reader
import TableCompiler.Csv.Writer
import TableCompiler.Files.Path
import TableCompiler.Files.Tree
import TableCompiler.Hash.Block
import TableCompiler.Hash.Checksum
import TableCompiler.Hash.Fnv
import TableCompiler.Hash.KeyHash
import TableCompiler.Hash.Md5
import TableCompiler.Hash.Sha1
import TableCompiler.Hash.Sha256
import TableCompiler.Json.Form
import TableCompiler.Json.Reader
import TableCompiler.Json.Value
import TableCompiler.Json.View
import TableCompiler.Localization.Decorated
import TableCompiler.Localization.HashTable
import TableCompiler.Localization.TextTable
import TableCompiler.Number.Bounds
import TableCompiler.Number.Digits
import TableCompiler.Number.Double
import TableCompiler.Number.RealText
import TableCompiler.Number.Rounding
import TableCompiler.Number.Shortest
import TableCompiler.Project.Build
import TableCompiler.Project.Manifest
import TableCompiler.Project.StructuredType
import TableCompiler.Proofs.Localization.Extraction
import TableCompiler.Proofs.Localization.FirstSeen
import TableCompiler.Proofs.Localization.Regrouping
import TableCompiler.Ron.Form
import TableCompiler.Ron.Reader
import TableCompiler.Ron.Token
import TableCompiler.Ron.View
import TableCompiler.Samples
import TableCompiler.Source.Format
import TableCompiler.Source.Load
import TableCompiler.Source.View
import TableCompiler.Table.Basic
import TableCompiler.Table.Binary
import TableCompiler.Table.Compact
import TableCompiler.Table.Typed
import TableCompiler.Text.Class
import TableCompiler.Text.Hex
import TableCompiler.Text.Ordered
import TableCompiler.Text.Quoted
import TableCompiler.Text.Repeated
import TableCompiler.Text.Utf16
import TableCompiler.Text.Utf8
import TableCompiler.Text.WordRanges
import TableCompiler.Toml.Moment
import TableCompiler.Toml.Reader
import TableCompiler.Toml.Token
import TableCompiler.Toml.Tree
import TableCompiler.Toml.View
import TableCompiler.Value
import TableCompiler.Proofs.Localization.Join
import TableCompiler.Proofs.Column.Agreement
import TableCompiler.Proofs.Column.ConvertDump
import TableCompiler.Proofs.Compile.FirstFault
import TableCompiler.Proofs.Files.Location
import TableCompiler.Proofs.Project.Outputs
import TableCompiler.Proofs.Localization.Alignment
import TableCompiler.Proofs.Localization.Collision
import TableCompiler.Proofs.Localization.Pivoting
import TableCompiler.Proofs.Compile.LocalizationStage
import TableCompiler.Proofs.Project.FirstFailure
import TableCompiler.Proofs.Artifact.RoundTrip
import TableCompiler.Proofs.Csv.RoundTrip
import TableCompiler.Proofs.Files.Writing
import TableCompiler.Proofs.Project.Written
import TableCompiler.Proofs.Project.EndToEnd
import TableCompiler.Proofs.Compile.Unseen
import TableCompiler.Proofs.Compile.ReviewGrid
import TableCompiler.Proofs.Compile.JoinedKeys
import TableCompiler.Proofs.Column.Grammar
import TableCompiler.Proofs.Column.Registration
import TableCompiler.Proofs.Compile.LocalizationOutput
import TableCompiler.Proofs.Table.Shape
import TableCompiler.Proofs.Compile.Rectangular
import TableCompiler.Proofs.Calendar.Canonical
import TableCompiler.Proofs.Column.TwosComplement
import TableCompiler.Proofs.Text.Utf16
import TableCompiler.Proofs.Column.Decoding
import TableCompiler.Proofs.Table.Decoding
import TableCompiler.Proofs.Localization.Header
import TableCompiler.Proofs.Artifact.Damage
import TableCompiler.Proofs.Column.Members
import TableCompiler.Proofs.Project.Confinement
import TableCompiler.Proofs.Files.Overwriting
import TableCompiler.Proofs.Project.Placing
import TableCompiler.Proofs.Project.SourceOrder
import TableCompiler.Proofs.Project.Rebuilding
import TableCompiler.Proofs.Project.LocalizationSwitch
import TableCompiler.Proofs.Compile.SelfDescription
import TableCompiler.Proofs.Table.Compaction
import TableCompiler.Proofs.Number.Numeral
import TableCompiler.Proofs.Column.IntegerText
import TableCompiler.Proofs.Column.Attributes
import TableCompiler.Proofs.Column.Language
import TableCompiler.Proofs.Column.StoredIntegers
import TableCompiler.Proofs.Column.EncodedTexts
import TableCompiler.Proofs.Column.StoredTexts
import TableCompiler.Proofs.Project.RegistrySetup
import TableCompiler.Proofs.Table.Padding
import TableCompiler.Proofs.Hash.Sensitivity
