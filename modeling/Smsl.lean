import Smsl.Code
import Smsl.CommandLine.Execution
import Smsl.CommandLine.Options
import Smsl.Compilation.Basic
import Smsl.Compilation.Console
import Smsl.Compilation.Report
import Smsl.Compilation.Sink
import Smsl.Diagnostic
import Smsl.Json
import Smsl.Limits
import Smsl.Line
import Smsl.Log.Event
import Smsl.Log.Journal
import Smsl.Log.Service
import Smsl.Main
import Smsl.Preferences.Basic
import Smsl.Preferences.Decoding
import Smsl.Preferences.Environment
import Smsl.Preferences.File
import Smsl.Proofs.AcceptedLines
import Smsl.Proofs.AcceptedTokens
import Smsl.Proofs.BlankLines
import Smsl.Proofs.ClippedMessages
import Smsl.Proofs.CompilationReport
import Smsl.Proofs.CompiledUnits
import Smsl.Proofs.CompleteCode
import Smsl.Proofs.ContentAttribution
import Smsl.Proofs.CountedLines
import Smsl.Proofs.DescribedSizes
import Smsl.Proofs.DiagnosticOrder
import Smsl.Proofs.EventLog
import Smsl.Proofs.FieldSpacing
import Smsl.Proofs.FileLimits
import Smsl.Proofs.GatedRuns
import Smsl.Proofs.InputAgreement
import Smsl.Proofs.LeftmostSeparators
import Smsl.Proofs.LimitedOutput
import Smsl.Proofs.LineGroups
import Smsl.Proofs.LineLocality
import Smsl.Proofs.LineRoles
import Smsl.Proofs.LineStages
import Smsl.Proofs.LineVerdict
import Smsl.Proofs.LoggedRuns
import Smsl.Proofs.MergedTransitions
import Smsl.Proofs.NestedScopes
import Smsl.Proofs.OptimizedCode
import Smsl.Proofs.PartedFacts
import Smsl.Proofs.PatternMatch
import Smsl.Proofs.PolicyStrictness
import Smsl.Proofs.PrintedTokens
import Smsl.Proofs.RefusedRuns
import Smsl.Proofs.ReorderedLines
import Smsl.Proofs.SanitizedLines
import Smsl.Proofs.ScannedUnit
import Smsl.Proofs.Segmentation
import Smsl.Proofs.SeparatedParts
import Smsl.Proofs.SpelledLines
import Smsl.Proofs.StagedRuns
import Smsl.Proofs.StateIndex
import Smsl.Proofs.StateVerdict
import Smsl.Proofs.StatementGrammar
import Smsl.Proofs.TokenGroups
import Smsl.Proofs.TokenLimit
import Smsl.Proofs.UnitFacts
import Smsl.Proofs.WrittenClauses
import Smsl.Proofs.WrittenPrograms
import Smsl.Quadruple.Basic
import Smsl.Quadruple.Generation
import Smsl.Quadruple.Optimization
import Smsl.Semantics.Analysis
import Smsl.Semantics.StateTable
import Smsl.Semantics.Walk
import Smsl.Source.Disk
import Smsl.Source.Error
import Smsl.Source.File
import Smsl.Source.Size
import Smsl.Statement.Kind
import Smsl.Statement.Shape
import Smsl.Statement.Transition
import Smsl.Text.Basic
import Smsl.Text.CaseTable
import Smsl.Text.Encoding
import Smsl.Text.LowerCase
import Smsl.Text.PrintTable
import Smsl.Text.Quoted
import Smsl.Token.Basic
import Smsl.Token.Lexeme
import Smsl.Token.Scan
import Smsl.Toml.DateTime
import Smsl.Toml.Digits
import Smsl.Toml.Document
import Smsl.Toml.Entry
import Smsl.Toml.Layout
import Smsl.Toml.Number
import Smsl.Toml.QuotedString
import Smsl.Toml.Scalar
import Smsl.Toml.Value
