import Assembler.BinaryByte
import Assembler.Bytes
import Assembler.Command.Files
import Assembler.Command.Run
import Assembler.Fault
import Assembler.Floating.Format
import Assembler.Floating.Literal
import Assembler.Floating.Shortest
import Assembler.Image.Layout
import Assembler.Image.Reader
import Assembler.Image.Writer
import Assembler.Instruction
import Assembler.Listing
import Assembler.Literal
import Assembler.Log
import Assembler.Main
import Assembler.Opcode
import Assembler.Program
import Assembler.Proofs.BinaryByte
import Assembler.Proofs.Bytes
import Assembler.Proofs.Command.Run
import Assembler.Proofs.Image.Bounded
import Assembler.Proofs.Image.Diagnosis
import Assembler.Proofs.Image.Extension
import Assembler.Proofs.Image.Format
import Assembler.Proofs.Image.Legacy
import Assembler.Proofs.Image.Offence
import Assembler.Proofs.Image.Position
import Assembler.Proofs.Image.Reading
import Assembler.Proofs.Image.RoundTrip
import Assembler.Proofs.Image.Slots
import Assembler.Proofs.Image.Steady
import Assembler.Proofs.Image.Truncation
import Assembler.Proofs.Instruction
import Assembler.Proofs.Listing.Copyright
import Assembler.Proofs.Listing.Cycle
import Assembler.Proofs.Listing.Instructions
import Assembler.Proofs.Listing.Metadata
import Assembler.Proofs.Listing.Recompile
import Assembler.Proofs.Listing.Resources
import Assembler.Proofs.Numeral
import Assembler.Proofs.Opcode
import Assembler.Proofs.Operands
import Assembler.Proofs.Resource
import Assembler.Proofs.Scalar
import Assembler.Proofs.Scalar.Codec
import Assembler.Proofs.Scalar.Denotation
import Assembler.Proofs.Source.Accepted
import Assembler.Proofs.Source.Accounting
import Assembler.Proofs.Source.Blanking
import Assembler.Proofs.Source.Block
import Assembler.Proofs.Source.Colons
import Assembler.Proofs.Source.Concatenation
import Assembler.Proofs.Source.Effects
import Assembler.Proofs.Source.Grammar
import Assembler.Proofs.Source.Isolation
import Assembler.Proofs.Source.LineEndings
import Assembler.Proofs.Source.Log
import Assembler.Proofs.Source.Mode
import Assembler.Proofs.Source.Scan
import Assembler.Proofs.Source.Spacing
import Assembler.Proofs.Source.Tolerance
import Assembler.Proofs.Source.Verdict
import Assembler.Proofs.Text.Lines
import Assembler.Proofs.Text.Words
import Assembler.Resource
import Assembler.Scalar.Basic
import Assembler.Scalar.Kind
import Assembler.Scalar.Literal
import Assembler.Source.Compile
import Assembler.Source.Statement
import Assembler.Source.Trace
import Assembler.Terminal.Arguments
import Assembler.Terminal.Plain
import Assembler.Text.Basic
import Assembler.Text.Printable
import Assembler.Text.Quoted
