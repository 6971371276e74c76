import CommentSieve.Command.Arguments
import CommentSieve.Command.Report
import CommentSieve.Command.Run
import CommentSieve.Config.Basic
import CommentSieve.Config.Text
import CommentSieve.Diagnostic.Basic
import CommentSieve.Diagnostic.Location
import CommentSieve.Diagnostic.Log
import CommentSieve.Diagnostic.Recovery
import CommentSieve.Diagnostic.Snippet
import CommentSieve.Double
import CommentSieve.Fallback.Dialect
import CommentSieve.Fallback.Strip
import CommentSieve.Files.Disk
import CommentSieve.Files.Glob
import CommentSieve.Files.Path
import CommentSieve.Files.Tree
import CommentSieve.Files.Walk
import CommentSieve.Json.Bytes
import CommentSieve.Json.Decode
import CommentSieve.Json.Lexical
import CommentSieve.Json.Skip
import CommentSieve.Json.Value
import CommentSieve.Main
import CommentSieve.Pattern.Basic
import CommentSieve.Pattern.CharSet
import CommentSieve.Pattern.Match
import CommentSieve.Pattern.Normal
import CommentSieve.Pattern.Program
import CommentSieve.Pattern.Read
import CommentSieve.Pattern.Reader.Basic
import CommentSieve.Pattern.Reader.Class
import CommentSieve.Pattern.Reader.Escape
import CommentSieve.Pattern.Search
import CommentSieve.Pattern.Weight
import CommentSieve.Proofs.Acceptance
import CommentSieve.Proofs.AfterComment
import CommentSieve.Proofs.Agreement
import CommentSieve.Proofs.CaseFolding
import CommentSieve.Proofs.CommandRun
import CommentSieve.Proofs.Completeness
import CommentSieve.Proofs.ConfigText
import CommentSieve.Proofs.Deletion
import CommentSieve.Proofs.DepthLimit
import CommentSieve.Proofs.Descriptions
import CommentSieve.Proofs.Directives
import CommentSieve.Proofs.Disks
import CommentSieve.Proofs.DocumentationTags
import CommentSieve.Proofs.EscapeForms
import CommentSieve.Proofs.Escapes
import CommentSieve.Proofs.Extents
import CommentSieve.Proofs.FailSafe
import CommentSieve.Proofs.Fronts
import CommentSieve.Proofs.Idempotence
import CommentSieve.Proofs.JsonGrammar
import CommentSieve.Proofs.JsonReading
import CommentSieve.Proofs.JsonRecords
import CommentSieve.Proofs.JsonSkipping
import CommentSieve.Proofs.Labels
import CommentSieve.Proofs.LeftToRight
import CommentSieve.Proofs.LineLookup
import CommentSieve.Proofs.LiteralRules
import CommentSieve.Proofs.Locality
import CommentSieve.Proofs.LookBehind
import CommentSieve.Proofs.LookupCost
import CommentSieve.Proofs.Markup
import CommentSieve.Proofs.Meaning
import CommentSieve.Proofs.Monotonicity
import CommentSieve.Proofs.OnePass
import CommentSieve.Proofs.OpenLiterals
import CommentSieve.Proofs.Outline
import CommentSieve.Proofs.Partition
import CommentSieve.Proofs.Pieces
import CommentSieve.Proofs.PlainText
import CommentSieve.Proofs.Prefixes
import CommentSieve.Proofs.Reading
import CommentSieve.Proofs.RegexGrammar
import CommentSieve.Proofs.RegexScan
import CommentSieve.Proofs.Reports
import CommentSieve.Proofs.ResumePoints
import CommentSieve.Proofs.Reuse
import CommentSieve.Proofs.RuleHistory
import CommentSieve.Proofs.Searching
import CommentSieve.Proofs.Snippets
import CommentSieve.Proofs.Spellings
import CommentSieve.Proofs.StringEnds
import CommentSieve.Proofs.TemplateGrammar
import CommentSieve.Proofs.Trust
import CommentSieve.Proofs.WholeWords
import CommentSieve.Remover
import CommentSieve.Rule.Basic
import CommentSieve.Rule.Builtin
import CommentSieve.Rule.Engine
import CommentSieve.Text.Alphabetic
import CommentSieve.Text.Blank
import CommentSieve.Text.ByteRanges
import CommentSieve.Text.CaseFold
import CommentSieve.Text.Intervals
import CommentSieve.Text.Mark
import CommentSieve.Text.Number
import CommentSieve.Text.Property
import CommentSieve.Text.Property.Age
import CommentSieve.Text.Property.Basic
import CommentSieve.Text.Property.Binary
import CommentSieve.Text.Property.Break
import CommentSieve.Text.Property.Category
import CommentSieve.Text.Property.Script
import CommentSieve.Text.Ranges
import CommentSieve.Text.Search
import CommentSieve.Text.Uppercase
import CommentSieve.Text.Utf8
import CommentSieve.Text.Word
import CommentSieve.Token.Basic
import CommentSieve.Token.Comment
import CommentSieve.Token.Coverage
import CommentSieve.Token.Escape
import CommentSieve.Token.Finding
import CommentSieve.Token.Frames
import CommentSieve.Token.Literal
import CommentSieve.Token.Options
import CommentSieve.Token.Reading
import CommentSieve.Token.RegexLiteral
import CommentSieve.Token.Scan
import CommentSieve.Token.Tokenizer
