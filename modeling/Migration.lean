import Migration.Command.Arguments
import Migration.Command.Basic
import Migration.Command.Findings
import Migration.Command.Run
import Migration.Command.Template
import Migration.Comparison
import Migration.Discovery.Glob
import Migration.Discovery.SourceFile
import Migration.Fault
import Migration.FileSystem.Access
import Migration.FileSystem.Path
import Migration.FileSystem.Tree
import Migration.Index.Basic
import Migration.Index.Declaration
import Migration.Index.Docstring
import Migration.Index.Naming
import Migration.Main
import Migration.Marks
import Migration.Module.Namespace
import Migration.Number.Shortest
import Migration.Proofs.Command.Run
import Migration.Proofs.Command.Template
import Migration.Proofs.Comparison
import Migration.Proofs.Discovery.Names
import Migration.Proofs.Discovery.SourceFile
import Migration.Proofs.FileSystem.Ancestors
import Migration.Proofs.FileSystem.Below
import Migration.Proofs.FileSystem.Path
import Migration.Proofs.FileSystem.Walk
import Migration.Proofs.FileSystem.Write
import Migration.Proofs.Index.ClassAssociation
import Migration.Proofs.Index.Concatenation
import Migration.Proofs.Index.Context
import Migration.Proofs.Index.Docstring
import Migration.Proofs.Index.Documented
import Migration.Proofs.Index.Grammar
import Migration.Proofs.Index.Groups
import Migration.Proofs.Index.Headings
import Migration.Proofs.Index.Patterns
import Migration.Proofs.Index.Positions
import Migration.Proofs.Index.Repeats
import Migration.Proofs.LineEnding
import Migration.Proofs.Marks.Contract
import Migration.Proofs.Marks.RoundTrip
import Migration.Proofs.Module.Namespace
import Migration.Proofs.Module.Path
import Migration.Proofs.Report.Comparison
import Migration.Proofs.Settings.Load
import Migration.Proofs.Survey.Coverage
import Migration.Proofs.Survey.Rows
import Migration.Proofs.Survey.Runs
import Migration.Proofs.Text.Bytes
import Migration.Proofs.Text.Concatenation
import Migration.Proofs.Text.Dictionary
import Migration.Proofs.Text.Join
import Migration.Proofs.Text.LetterCase
import Migration.Proofs.Text.LineEnding
import Migration.Proofs.Text.Lines
import Migration.Proofs.Text.Lossy
import Migration.Proofs.Text.Order
import Migration.Proofs.Text.Scan
import Migration.Proofs.Text.TitleCase
import Migration.Proofs.Text.Trim
import Migration.Remark
import Migration.Report.Render
import Migration.Report.Style
import Migration.Settings.Basic
import Migration.Settings.Decode
import Migration.Settings.Load
import Migration.Survey
import Migration.Text.Alphabetic
import Migration.Text.Bytes
import Migration.Text.Case
import Migration.Text.CodeSet
import Migration.Text.Dictionary
import Migration.Text.Lines
import Migration.Text.Pattern
import Migration.Text.Shown
import Migration.Text.WordChar
import Migration.Toml.Document
import Migration.Toml.Quoted
import Migration.Toml.Scalar
import Migration.Toml.Table
import Migration.Toml.Value
