import ClassAtlas.Analysis
import ClassAtlas.ClassGraph.Basic
import ClassAtlas.ClassGraph.Edit
import ClassAtlas.ClassGraph.Node
import ClassAtlas.ClassGraph.Reach
import ClassAtlas.CommandLine
import ClassAtlas.Comparison
import ClassAtlas.Config
import ClassAtlas.Diagram
import ClassAtlas.Document
import ClassAtlas.Fault
import ClassAtlas.FileTree
import ClassAtlas.Keyed
import ClassAtlas.Main
import ClassAtlas.Number.Binary
import ClassAtlas.Number.Shortest
import ClassAtlas.Ordered
import ClassAtlas.Outline
import ClassAtlas.PackageTree
import ClassAtlas.Path
import ClassAtlas.Project
import ClassAtlas.Proofs.Additions
import ClassAtlas.Proofs.Annotations
import ClassAtlas.Proofs.Attempts
import ClassAtlas.Proofs.ClassKinds
import ClassAtlas.Proofs.Cycles
import ClassAtlas.Proofs.Dependencies
import ClassAtlas.Proofs.DiagramFiles
import ClassAtlas.Proofs.Discovery
import ClassAtlas.Proofs.DottedKeys
import ClassAtlas.Proofs.Drawing
import ClassAtlas.Proofs.Exclusion
import ClassAtlas.Proofs.ExtraFile
import ClassAtlas.Proofs.FileEffects
import ClassAtlas.Proofs.Fixpoint
import ClassAtlas.Proofs.GraphLaws
import ClassAtlas.Proofs.GuideSettings
import ClassAtlas.Proofs.Inheritance
import ClassAtlas.Proofs.InnerClasses
import ClassAtlas.Proofs.Inside
import ClassAtlas.Proofs.Integrity
import ClassAtlas.Proofs.Jobs
import ClassAtlas.Proofs.Keys
import ClassAtlas.Proofs.LastDefinition
import ClassAtlas.Proofs.LevelHints
import ClassAtlas.Proofs.LooseCalls
import ClassAtlas.Proofs.Lossless
import ClassAtlas.Proofs.Members
import ClassAtlas.Proofs.ModuleFiles
import ClassAtlas.Proofs.ModuleLevel
import ClassAtlas.Proofs.ModuleOrder
import ClassAtlas.Proofs.NamePatterns
import ClassAtlas.Proofs.NormalNames
import ClassAtlas.Proofs.Notices
import ClassAtlas.Proofs.Numbering
import ClassAtlas.Proofs.Order
import ClassAtlas.Proofs.Passes
import ClassAtlas.Proofs.PathNames
import ClassAtlas.Proofs.Places
import ClassAtlas.Proofs.PrefixTree
import ClassAtlas.Proofs.Reachability
import ClassAtlas.Proofs.Relations
import ClassAtlas.Proofs.Removal
import ClassAtlas.Proofs.Replay
import ClassAtlas.Proofs.RunEffects
import ClassAtlas.Proofs.Scanning
import ClassAtlas.Proofs.Settings
import ClassAtlas.Proofs.Spelling
import ClassAtlas.Proofs.Steps
import ClassAtlas.Proofs.TopologicalOrder
import ClassAtlas.Proofs.Traces
import ClassAtlas.Proofs.TreeGrowth
import ClassAtlas.Proofs.Trimming
import ClassAtlas.Proofs.TypeOccurrences
import ClassAtlas.Proofs.Visible
import ClassAtlas.Scan
import ClassAtlas.Settings.Lines
import ClassAtlas.Settings.Read
import ClassAtlas.Settings.Value
import ClassAtlas.Source.Cursor
import ClassAtlas.Source.Escape
import ClassAtlas.Source.Expr
import ClassAtlas.Source.ExprGrammar
import ClassAtlas.Source.FormattedText
import ClassAtlas.Source.Grammar
import ClassAtlas.Source.Lexer
import ClassAtlas.Source.Literal
import ClassAtlas.Source.Numeral
import ClassAtlas.Source.ParameterGrammar
import ClassAtlas.Source.Parse
import ClassAtlas.Source.PatternGrammar
import ClassAtlas.Source.Printer
import ClassAtlas.Source.Stmt
import ClassAtlas.Source.StmtGrammar
import ClassAtlas.Source.Token
import ClassAtlas.Source.TypeNames
import ClassAtlas.Text.Alphanumeric
import ClassAtlas.Text.Compatibility
import ClassAtlas.Text.CompatibilityTable
import ClassAtlas.Text.Decode
import ClassAtlas.Text.Glob
import ClassAtlas.Text.Identifier
import ClassAtlas.Text.Printable
import ClassAtlas.Text.Quoted
import ClassAtlas.Text.RangeMap
import ClassAtlas.Visibility
import ClassAtlas.Workspace
