import ScriptLint.Check.Heuristics
import ScriptLint.CommandLine.Run
import ScriptLint.Config.File
import ScriptLint.Data.Json.Printer
import ScriptLint.Data.Json.Reader
import ScriptLint.Data.Toml.Reader
import ScriptLint.Main
import ScriptLint.Pattern.Reading
import ScriptLint.Proofs.Check.Sockets
import ScriptLint.Proofs.Config.Switches
import ScriptLint.Proofs.Script.Rearrangement
import ScriptLint.Proofs.Validator.Verdict
import ScriptLint.Report.Basic
import ScriptLint.Script.Basic
import ScriptLint.Validator.Watch
import ScriptLint.Proofs.Script.Blame
import ScriptLint.Proofs.Script.Construct
import ScriptLint.Proofs.Script.Rejection
import ScriptLint.Proofs.Check.Numbering
import ScriptLint.Proofs.Validator.Errors
import ScriptLint.Proofs.Validator.MissingEntry
import ScriptLint.Proofs.Text.Mark
import ScriptLint.Proofs.Text.Lines
import ScriptLint.Proofs.Script.Place
import ScriptLint.Proofs.Check.Position
import ScriptLint.Proofs.Check.Comments
import ScriptLint.Proofs.Validator.Watch
import ScriptLint.Proofs.Validator.Calls
import ScriptLint.Proofs.Data.Json.Scalar
import ScriptLint.Proofs.Data.Json.Value
import ScriptLint.Proofs.Data.Record
import ScriptLint.Proofs.Report.Json
import ScriptLint.Proofs.CommandLine.Exit
import ScriptLint.Proofs.CommandLine.Files
import ScriptLint.Proofs.Config.Blocks
import ScriptLint.Proofs.Report.Text
import ScriptLint.Proofs.Validator.Lines
import ScriptLint.Proofs.Check.Anchor
import ScriptLint.Proofs.Text.Rows
import ScriptLint.Proofs.Validator.Extent
import ScriptLint.Proofs.Validator.Names
import ScriptLint.Proofs.Data.Node
import ScriptLint.Proofs.CommandLine.Agreement
import ScriptLint.Proofs.Script.Returned
import ScriptLint.Proofs.Check.Coverage
import ScriptLint.Proofs.Text.CharSet
import ScriptLint.Proofs.Check.BareName
import ScriptLint.Proofs.Check.Scan
import ScriptLint.Proofs.Script.Hoisting
import ScriptLint.Proofs.Check.AmbientOutputs
import ScriptLint.Proofs.Script.Layout
import ScriptLint.Proofs.Script.Site
import ScriptLint.Proofs.Check.UndeclaredInputs
import ScriptLint.Proofs.Script.Violation
import ScriptLint.Proofs.Script.Alike
import ScriptLint.Proofs.Check.TopLevelReturns
import ScriptLint.Proofs.Check.LastDeclaration
import ScriptLint.Proofs.Text.Hexadecimal
import ScriptLint.Proofs.Script.Literal
import ScriptLint.Proofs.Script.AsciiLiteral
import ScriptLint.Proofs.Check.AsciiKey
import ScriptLint.Proofs.Script.Unexpected
import ScriptLint.Proofs.Report.Sections
import ScriptLint.Proofs.Text.Blank
import ScriptLint.Proofs.Text.Case
import ScriptLint.Proofs.Socket
import ScriptLint.Proofs.Config.Name
import ScriptLint.Proofs.Data.Spelling
import ScriptLint.Proofs.Script.Unpacking
import ScriptLint.Proofs.Script.Visit
import ScriptLint.Proofs.Script.Laid
