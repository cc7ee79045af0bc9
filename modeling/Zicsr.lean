import Zicsr.Main
import Zicsr.Proofs.Text.Split
import Zicsr.Proofs.Text.Padding
import Zicsr.Proofs.Numeral
import Zicsr.Proofs.Names
import Zicsr.Proofs.Assembly.Line
import Zicsr.Proofs.Assembly.Spelling
import Zicsr.Proofs.Instruction.Codec
import Zicsr.Proofs.Instruction.ReadOnly
import Zicsr.Proofs.Assembly.Printed
import Zicsr.Proofs.Assembly.Listing
import Zicsr.Proofs.Assembly.Operand
import Zicsr.Proofs.Assembly.Division
import Zicsr.Proofs.Assembly.Grammar
import Zicsr.Proofs.Assembly.ReadOnly
import Zicsr.Proofs.Assembly.Append
import Zicsr.Proofs.Header.Definition
import Zicsr.Proofs.Header.Lines
import Zicsr.Proofs.Header.Calls
import Zicsr.Proofs.Instruction.Table
import Zicsr.Proofs.Csr.Mstatus
import Zicsr.Proofs.Assembly.Guarded
import Zicsr.Proofs.Cli.Encode
import Zicsr.Proofs.Assembly.Refusal
import Zicsr.Proofs.Text.Letters
import Zicsr.Proofs.Instruction.Encoding
import Zicsr.Proofs.Numeral.Literal
import Zicsr.Proofs.Assembly.Misplaced
import Zicsr.Proofs.Assembly.Layout
import Zicsr.Proofs.Coded
import Zicsr.Proofs.Trap
import Zicsr.Proofs.Csr.Satp
import Zicsr.Proofs.Csr.FieldView
import Zicsr.Proofs.Instruction.Encoders
import Zicsr.Proofs.Instruction.BitPattern
import Zicsr.Proofs.Assembly.Abbreviation
import Zicsr.Proofs.Cli.Decode
import Zicsr.Proofs.Header.Selection
import Zicsr.Proofs.Bits.Fields
import Zicsr.Proofs.Cli.Answer
