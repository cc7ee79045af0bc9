import Zicsr.Instruction.Print

/-
  The log of a run.

  Each event has a level and names the part of the program that reports it. A
  run shows the events of its own level and of those more urgent.
-/

namespace Zicsr

/-- How urgent an event is, most urgent first; `off` is less than any event. -/
inductive LogLevel where
  | off
  | error
  | warn
  | info
  | debug
  | trace
  deriving DecidableEq, Repr

namespace LogLevel

def all : List LogLevel := [.off, .error, .warn, .info, .debug, .trace]

def rank : LogLevel → Nat
  | .off => 0
  | .error => 1
  | .warn => 2
  | .info => 3
  | .debug => 4
  | .trace => 5

def name : LogLevel → Text
  | .off => "off"
  | .error => "error"
  | .warn => "warn"
  | .info => "info"
  | .debug => "debug"
  | .trace => "trace"

def ofName? (t : Text) : Option LogLevel := all.find? (fun level => level.name = t)

/-- The level where none is named. -/
def standard : LogLevel := .warn

def shows (level event : LogLevel) : Bool := event.rank ≤ level.rank

end LogLevel

/-- Something that a run reports about itself. -/
inductive Event where
  | encoded (op : CsrOp) (operands : Operands) (word : BitVec 32)
  | parsed (code : Text) (i : Instruction)
  | assembled (count : Nat)
  | decoderReady (dispatched : Nat)
  | unnamedCsr (word : BitVec 32) (address : Nat)
  | unknownWord (word : BitVec 32)
  | failed (diagnostic : Text)
  | pipedInput
  deriving DecidableEq, Repr

namespace Event

def level : Event → LogLevel
  | encoded .. => .trace
  | parsed .. => .trace
  | assembled _ => .debug
  | decoderReady _ => .debug
  | unnamedCsr .. => .warn
  | unknownWord _ => .debug
  | failed _ => .debug
  | pipedInput => .debug

/-- The part of the program that reports the event. -/
def origin : Event → Text
  | encoded .. => "riscv_csr_asm::isa::riscv::encoder"
  | parsed .. => "riscv_csr_asm::isa::riscv::asm"
  | assembled _ => "riscv_csr_asm::isa::riscv::asm"
  | decoderReady _ => "riscv_csr_asm::isa::riscv::decoder::funct_decoder"
  | unnamedCsr .. => "riscv_csr_asm::isa::riscv::decoder"
  | unknownWord _ => "riscv_csr_asm::isa::riscv::decoder"
  | failed _ => "csrasm"
  | pipedInput => "rustyline"

def operandsText (o : Operands) : Text :=
  "Csr \x7b rd: ".toList ++ Numeral.decimal o.rd ++ ", rs1: ".toList ++ Numeral.decimal o.source
    ++ ", csr: ".toList ++ Numeral.decimal o.csr ++ " \x7d".toList

def wordText (word : BitVec 32) : Text := Numeral.literalPadded 8 word.toNat

def text : Event → Text
  | encoded op o word =>
    "encoded ".toList ++ op.mnemonic ++ " ".toList ++ operandsText o ++ " -> ".toList
      ++ wordText word
  | parsed code i => "parsed `".toList ++ code ++ "` as ".toList ++ i.canonicalText
  | assembled count => "assembled ".toList ++ Numeral.decimal count ++ " words".toList
  | decoderReady dispatched =>
    "funct_decoder has ".toList ++ Numeral.decimal dispatched ++ " instructions.".toList
  | unnamedCsr word address =>
    wordText word ++ " accesses unnamed csr ".toList ++ Numeral.literalPadded 3 address
  | unknownWord word => wordText word ++ " is not a known SYSTEM instruction".toList
  | failed diagnostic => "command failed: ".toList ++ diagnostic
  | pipedInput => "stdin is not a tty"

def line (e : Event) : Text :=
  Text.upper e.level.name ++ " [".toList ++ e.origin ++ "] ".toList ++ e.text

end Event

end Zicsr
