import SourceCensus.Command.Arguments
import SourceCensus.Command.Execution
import SourceCensus.Command.Switch
import SourceCensus.Command.Word
import SourceCensus.Digest.Fnv
import SourceCensus.Digest.Md5
import SourceCensus.Duplication.Bucket
import SourceCensus.Duplication.Chain
import SourceCensus.Duplication.Detection
import SourceCensus.Duplication.Fingerprint
import SourceCensus.Duplication.Group
import SourceCensus.Duplication.Location
import SourceCensus.Duplication.Metrics
import SourceCensus.Ignore.Glob
import SourceCensus.Ignore.Pattern
import SourceCensus.Ignore.Rules
import SourceCensus.Journal.Notice
import SourceCensus.Journal.Run
import SourceCensus.Language.Detect
import SourceCensus.Language.Lexis
import SourceCensus.Language.Registry
import SourceCensus.Literal.Escape
import SourceCensus.Literal.Fault
import SourceCensus.Literal.Grammar
import SourceCensus.Literal.Phrase
import SourceCensus.Literal.Reader
import SourceCensus.Literal.Template
import SourceCensus.Literal.Token
import SourceCensus.Main
import SourceCensus.Number.Binary64
import SourceCensus.Number.Decimal
import SourceCensus.Path.Basic
import SourceCensus.Proofs.Binary64
import SourceCensus.Proofs.Command.Endings
import SourceCensus.Proofs.Command.SearchReport
import SourceCensus.Proofs.Command.SummaryTable
import SourceCensus.Proofs.Digest.CommonTail
import SourceCensus.Proofs.Duplication.Blocks
import SourceCensus.Proofs.Duplication.Ceiling
import SourceCensus.Proofs.Duplication.ChainEnds
import SourceCensus.Proofs.Duplication.Chains
import SourceCensus.Proofs.Duplication.CommonStart
import SourceCensus.Proofs.Duplication.Completeness
import SourceCensus.Proofs.Duplication.ConfirmedSets
import SourceCensus.Proofs.Duplication.Contents
import SourceCensus.Proofs.Duplication.DetectedBlocks
import SourceCensus.Proofs.Duplication.DuplicatedTotal
import SourceCensus.Proofs.Duplication.FileOrder
import SourceCensus.Proofs.Duplication.Findings
import SourceCensus.Proofs.Duplication.FullBlocks
import SourceCensus.Proofs.Duplication.GroupOrder
import SourceCensus.Proofs.Duplication.LineNumbers
import SourceCensus.Proofs.Duplication.LocationOrder
import SourceCensus.Proofs.Duplication.Loop
import SourceCensus.Proofs.Duplication.Magnitudes
import SourceCensus.Proofs.Duplication.Maximality
import SourceCensus.Proofs.Duplication.ProcessingOrder
import SourceCensus.Proofs.Duplication.Ratio
import SourceCensus.Proofs.Duplication.ReferenceDetector
import SourceCensus.Proofs.Duplication.Soundness
import SourceCensus.Proofs.Duplication.UnrelatedFiles
import SourceCensus.Proofs.Duplication.Verdicts
import SourceCensus.Proofs.Duplication.Verification
import SourceCensus.Proofs.Duplication.WindowIndex
import SourceCensus.Proofs.Duplication.WindowPartition
import SourceCensus.Proofs.Duplication.WindowSizes
import SourceCensus.Proofs.Ignore.Below
import SourceCensus.Proofs.Ignore.Matching
import SourceCensus.Proofs.Ignore.Rebase
import SourceCensus.Proofs.Ignore.StepwiseMoves
import SourceCensus.Proofs.Language.Interpreter
import SourceCensus.Proofs.Outcome
import SourceCensus.Proofs.Pieces
import SourceCensus.Proofs.Report.CensusLines
import SourceCensus.Proofs.Report.Documents
import SourceCensus.Proofs.Report.Emoji
import SourceCensus.Proofs.Report.Layout
import SourceCensus.Proofs.Report.Numbers
import SourceCensus.Proofs.Report.Printing
import SourceCensus.Proofs.Report.Summary
import SourceCensus.Proofs.Report.Tables
import SourceCensus.Proofs.Scan.BlankLines
import SourceCensus.Proofs.Scan.BlockComment
import SourceCensus.Proofs.Scan.Course
import SourceCensus.Proofs.Scan.Indentation
import SourceCensus.Proofs.Scan.LineStates
import SourceCensus.Proofs.Scan.Passage
import SourceCensus.Proofs.Scan.QuotedText
import SourceCensus.Proofs.Scan.TripleQuotes
import SourceCensus.Proofs.Sequence
import SourceCensus.Proofs.Source.CensusBalance
import SourceCensus.Proofs.Source.CodeLines
import SourceCensus.Proofs.Source.CodeTotals
import SourceCensus.Proofs.Source.Completion
import SourceCensus.Proofs.Source.CountingPass
import SourceCensus.Proofs.Source.Outcomes
import SourceCensus.Proofs.Source.Sizes
import SourceCensus.Proofs.Source.SourceOrder
import SourceCensus.Proofs.Store.RealPath
import SourceCensus.Proofs.Store.Tree
import SourceCensus.Proofs.Text.Blanks
import SourceCensus.Proofs.Text.Cells
import SourceCensus.Proofs.Text.SourceLines
import SourceCensus.Proofs.Walk.BreadthFirst
import SourceCensus.Proofs.Walk.FoundSources
import SourceCensus.Proofs.Walk.Queue
import SourceCensus.Proofs.Walk.Visits
import SourceCensus.Report.Action
import SourceCensus.Report.Color
import SourceCensus.Report.Duplication
import SourceCensus.Report.Json
import SourceCensus.Report.LineCount
import SourceCensus.Report.Marked
import SourceCensus.Report.Markup
import SourceCensus.Report.Style
import SourceCensus.Report.Table
import SourceCensus.Report.Theme
import SourceCensus.Report.Wrap
import SourceCensus.Scan.Line
import SourceCensus.Scan.Position
import SourceCensus.Scan.State
import SourceCensus.Scan.Step
import SourceCensus.Scan.Tally
import SourceCensus.Sequence.Assoc
import SourceCensus.Sequence.Slice
import SourceCensus.Sequence.Total
import SourceCensus.Source.Census
import SourceCensus.Source.Normalized
import SourceCensus.Source.Project
import SourceCensus.Source.Reading
import SourceCensus.Store.Basic
import SourceCensus.Store.Follow
import SourceCensus.Store.Write
import SourceCensus.Text.Blank
import SourceCensus.Text.CellCut
import SourceCensus.Text.CellTable
import SourceCensus.Text.CellWidth
import SourceCensus.Text.Emoji
import SourceCensus.Text.EmojiTable
import SourceCensus.Text.Integer
import SourceCensus.Text.Lines
import SourceCensus.Text.LowerCase
import SourceCensus.Text.Printable
import SourceCensus.Text.Quoted
import SourceCensus.Text.Ranges
import SourceCensus.Text.Search
import SourceCensus.Text.Symbol
import SourceCensus.Text.Utf8
import SourceCensus.Walk.Exclusion
import SourceCensus.Walk.IgnoreFiles
import SourceCensus.Walk.TestName
import SourceCensus.Walk.Traversal
