import GridAsm.Binary64.Basic
import GridAsm.Binary64.Shortest
import GridAsm.Bits
import GridAsm.Command.Arguments
import GridAsm.Command.Run
import GridAsm.Command.Tool
import GridAsm.Diagnostic
import GridAsm.Failure
import GridAsm.Field
import GridAsm.Files.Artifact
import GridAsm.Files.Name
import GridAsm.Files.Path
import GridAsm.Files.RuleFile
import GridAsm.Files.SourceFile
import GridAsm.Files.Tree
import GridAsm.Grid.Delimited
import GridAsm.Json.Reader
import GridAsm.Json.Value
import GridAsm.Label
import GridAsm.Layout
import GridAsm.Listing
import GridAsm.Literal
import GridAsm.Main
import GridAsm.Notice
import GridAsm.Operand.Token
import GridAsm.Operand.Values
import GridAsm.Program
import GridAsm.Proofs.Acceptance
import GridAsm.Proofs.Activity
import GridAsm.Proofs.Artifact
import GridAsm.Proofs.Bits
import GridAsm.Proofs.Branch
import GridAsm.Proofs.Capitals
import GridAsm.Proofs.Cell
import GridAsm.Proofs.Command
import GridAsm.Proofs.Condition
import GridAsm.Proofs.Delimited
import GridAsm.Proofs.Field
import GridAsm.Proofs.FieldLimit
import GridAsm.Proofs.FileTree
import GridAsm.Proofs.Hexadecimal
import GridAsm.Proofs.Json
import GridAsm.Proofs.JsonLimits
import GridAsm.Proofs.Jump
import GridAsm.Proofs.Keyword
import GridAsm.Proofs.Label
import GridAsm.Proofs.Layout
import GridAsm.Proofs.LayoutStep
import GridAsm.Proofs.LayoutText
import GridAsm.Proofs.LetterCase
import GridAsm.Proofs.LineEnd
import GridAsm.Proofs.Listing
import GridAsm.Proofs.Literal
import GridAsm.Proofs.Loading
import GridAsm.Proofs.Locality
import GridAsm.Proofs.Nesting
import GridAsm.Proofs.Notice
import GridAsm.Proofs.Numeral
import GridAsm.Proofs.Opcode
import GridAsm.Proofs.Operand
import GridAsm.Proofs.OperandList
import GridAsm.Proofs.Program
import GridAsm.Proofs.Reference
import GridAsm.Proofs.Relocation
import GridAsm.Proofs.Rule
import GridAsm.Proofs.RuleTable
import GridAsm.Proofs.Segment
import GridAsm.Proofs.Session
import GridAsm.Proofs.Shadowing
import GridAsm.Proofs.Shape
import GridAsm.Proofs.SliceCells
import GridAsm.Proofs.SourceFile
import GridAsm.Proofs.SourceLine
import GridAsm.Proofs.Spacing
import GridAsm.Proofs.Squeeze
import GridAsm.Proofs.Text
import GridAsm.Proofs.Token
import GridAsm.Proofs.TwosComplement
import GridAsm.Proofs.Utf8
import GridAsm.Proofs.Warning
import GridAsm.Proofs.WellFormed
import GridAsm.Proofs.Word
import GridAsm.Rule
import GridAsm.RuleTable
import GridAsm.Session
import GridAsm.Settings
import GridAsm.Shape
import GridAsm.SourceLine
import GridAsm.Text.Basic
import GridAsm.Text.Blank
import GridAsm.Text.CodePoint
import GridAsm.Text.Column
import GridAsm.Text.Console
import GridAsm.Text.Digit
import GridAsm.Text.Lower
import GridAsm.Text.Quoted
import GridAsm.Text.Ranges
import GridAsm.Text.Similar
import GridAsm.Text.Split
import GridAsm.Text.Upper
import GridAsm.Text.Utf8
import GridAsm.Text.WordChar
import GridAsm.Word
