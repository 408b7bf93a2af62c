import Advisor.CommandLine.Arguments
import Advisor.CommandLine.Option
import Advisor.CommandLine.Run
import Advisor.Config.Basic
import Advisor.Config.Load
import Advisor.Config.Merge
import Advisor.Config.Moment
import Advisor.Config.Setting
import Advisor.Config.Toml
import Advisor.Decimal.Double
import Advisor.Diagnosis
import Advisor.Files.PathName
import Advisor.Files.Tree
import Advisor.Finding
import Advisor.Gate
import Advisor.Grammar.Automaton
import Advisor.Grammar.Bits
import Advisor.Grammar.Compact
import Advisor.Grammar.Item
import Advisor.Grammar.Lexeme
import Advisor.Grammar.Overlap
import Advisor.Grammar.Production
import Advisor.Grammar.Rule
import Advisor.Grammar.Table
import Advisor.Json.Basic
import Advisor.Json.Printer
import Advisor.Json.Reader
import Advisor.Main
import Advisor.Manifest
import Advisor.Parse.Lexer
import Advisor.Parse.Parser
import Advisor.Parse.Stack
import Advisor.Parse.Subtree
import Advisor.Parse.Text
import Advisor.Proofs.AfterScan
import Advisor.Proofs.Alike
import Advisor.Proofs.BreakingOff
import Advisor.Proofs.ConfigCheck
import Advisor.Proofs.DeclaredPackages
import Advisor.Proofs.Directive
import Advisor.Proofs.FileScan
import Advisor.Proofs.FolderScan
import Advisor.Proofs.GateEffect
import Advisor.Proofs.Json.Members
import Advisor.Proofs.Json.Nesting
import Advisor.Proofs.Json.Reader
import Advisor.Proofs.Json.RoundTrip
import Advisor.Proofs.Json.Scalar
import Advisor.Proofs.LetterCase
import Advisor.Proofs.LineLocality
import Advisor.Proofs.ListingOrder
import Advisor.Proofs.ManifestCheck
import Advisor.Proofs.Pattern
import Advisor.Proofs.Rearrangement
import Advisor.Proofs.Region
import Advisor.Proofs.Relocation
import Advisor.Proofs.ScriptRows
import Advisor.Proofs.StandardInput
import Advisor.Proofs.Tally
import Advisor.Proofs.TextScan
import Advisor.Proofs.TreeSearch
import Advisor.Proofs.Utf8
import Advisor.Proofs.Verdict
import Advisor.Proofs.VersionReader
import Advisor.Proofs.Walk
import Advisor.Proofs.WalkOrder
import Advisor.Proofs.WeaknessLanguage
import Advisor.Proofs.WrittenReport
import Advisor.Report
import Advisor.Scan.Analysis
import Advisor.Scan.Files
import Advisor.Scan.Rule
import Advisor.Scan.Selection
import Advisor.Scan.Text
import Advisor.Script.Description
import Advisor.Script.Scanner
import Advisor.Script.Tree
import Advisor.Severity
import Advisor.Suppression
import Advisor.SyntaxTree
import Advisor.Text.Blank
import Advisor.Text.Case
import Advisor.Text.CaseTable
import Advisor.Text.Digit
import Advisor.Text.Edges
import Advisor.Text.Integer
import Advisor.Text.Printable
import Advisor.Text.Quoted
import Advisor.Text.Sorted
import Advisor.Text.Utf8
import Advisor.Version
import Advisor.Weakness
import Advisor.Proofs.GateOrder
import Advisor.Proofs.LooserSelection
import Advisor.Proofs.QuotedToken
import Advisor.Proofs.CharacterColumn
import Advisor.Proofs.ErrorPosition
import Advisor.Proofs.Wording
import Advisor.Proofs.ReadFailure
import Advisor.Proofs.RepeatedMerge
import Advisor.Proofs.ReportedNames
import Advisor.Proofs.SchemeAgreement
import Advisor.Proofs.TreeListing
import Advisor.Proofs.Complaint
import Advisor.Proofs.LocationSuffix
