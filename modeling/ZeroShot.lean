import ZeroShot.ClassRole
import ZeroShot.Classifier.Backend
import ZeroShot.Classifier.Basic
import ZeroShot.Classifier.Builder
import ZeroShot.Classifier.Options
import ZeroShot.Classifier.Request
import ZeroShot.Classifier.Schedule
import ZeroShot.CommandLine.Invocation
import ZeroShot.CommandLine.Lookup
import ZeroShot.CommandLine.Run
import ZeroShot.CommandLine.Words
import ZeroShot.Config.File
import ZeroShot.Config.ModelConfig
import ZeroShot.Config.Record
import ZeroShot.Config.Resolved
import ZeroShot.Duration
import ZeroShot.Error
import ZeroShot.FileTree
import ZeroShot.Hypothesis
import ZeroShot.Journal
import ZeroShot.Json.Basic
import ZeroShot.Json.Document
import ZeroShot.Json.Fields
import ZeroShot.Json.Literal
import ZeroShot.Json.Printer
import ZeroShot.Json.Token
import ZeroShot.Main
import ZeroShot.Members
import ZeroShot.Model.Device
import ZeroShot.Model.Encoding
import ZeroShot.Model.Graph
import ZeroShot.Model.Library
import ZeroShot.Model.Local
import ZeroShot.Model.Runtime
import ZeroShot.Model.Source
import ZeroShot.Model.Tensor
import ZeroShot.Model.Tokenizer
import ZeroShot.Model.WordTokenizer
import ZeroShot.Number.Binary
import ZeroShot.Number.Decimal
import ZeroShot.Number.Integer
import ZeroShot.Path
import ZeroShot.Proofs.Classifier.Alignment
import ZeroShot.Proofs.Classifier.Calls
import ZeroShot.Proofs.Classifier.Metrics
import ZeroShot.Proofs.CommandLine.Configuration
import ZeroShot.Proofs.CommandLine.Source
import ZeroShot.Proofs.Config.Fallback
import ZeroShot.Proofs.Json.Members
import ZeroShot.Proofs.Number.Arithmetic
import ZeroShot.Proofs.Number.Binary32
import ZeroShot.Proofs.Number.Binary64
import ZeroShot.Proofs.Number.Level
import ZeroShot.Proofs.Number.Operations
import ZeroShot.Proofs.Number.Packing
import ZeroShot.Proofs.Number.Rounding
import ZeroShot.Proofs.Ranking.Order
import ZeroShot.Proofs.Ranking.Selection
import ZeroShot.Proofs.Ranking.Stability
import ZeroShot.Proofs.Schedule.Delivery
import ZeroShot.Proofs.Schedule.Window
import ZeroShot.Proofs.Score.Bounds
import ZeroShot.Proofs.Score.Columns
import ZeroShot.Proofs.Score.Exact
import ZeroShot.Proofs.Score.Matrix
import ZeroShot.Proofs.Score.Monotone
import ZeroShot.Proofs.Score.Propagation
import ZeroShot.Score.Arithmetic
import ZeroShot.Score.LogitMatrix
import ZeroShot.Score.Policy
import ZeroShot.Score.Ranking
import ZeroShot.Score.Record
import ZeroShot.Score.Softmax
import ZeroShot.Score.Task
import ZeroShot.Settings
import ZeroShot.Text.Blank
import ZeroShot.Text.CaseTable
import ZeroShot.Text.GlyphTable
import ZeroShot.Text.Lowercase
import ZeroShot.Text.Quoted
import ZeroShot.Text.Split
import ZeroShot.Toml.Basic
import ZeroShot.Toml.Document
import ZeroShot.Toml.Lexeme
import ZeroShot.Toml.Scalar
import ZeroShot.Proofs.Config.Fields
import ZeroShot.Proofs.Config.OddField
import ZeroShot.Proofs.Config.Labels
import ZeroShot.Proofs.Files.Walk
import ZeroShot.Proofs.Model.OwnConfiguration
import ZeroShot.Proofs.Classifier.Deadline
import ZeroShot.Proofs.Score.Rows
import ZeroShot.Proofs.Ranking.Access
import ZeroShot.Proofs.Classifier.Hypotheses
import ZeroShot.Proofs.Text.Ascii
import ZeroShot.Proofs.Number.Digits
import ZeroShot.Proofs.Json.Integers
import ZeroShot.Proofs.Classifier.Arguments
import ZeroShot.Proofs.Classifier.Spelling
import ZeroShot.Proofs.Classifier.Assignment
import ZeroShot.Proofs.Ranking.Lookup
import ZeroShot.Proofs.Text.Folding
import ZeroShot.Proofs.Config.TokenTypes
import ZeroShot.Proofs.Json.Lexemes
import ZeroShot.Proofs.Json.Nesting
import ZeroShot.Proofs.Json.Printed
import ZeroShot.Proofs.Json.Rewriting
import ZeroShot.Proofs.Classifier.Records
import ZeroShot.Proofs.Number.Words
import ZeroShot.Proofs.Config.LabelIds
import ZeroShot.Proofs.Model.TensorRow
