import Zicsr.Instruction.Encode

/-
  Why a source line or a source text is refused.
-/

namespace Zicsr

/-- Why a line is refused. -/
inductive LineError where
  | unknownMnemonic (name : Text)
  | unknownCall (name : Text)
  | operandCount (name : Text) (expected found : Nat)
  | openCall (code : Text)
  | invalidRegister (text : Text)
  | invalidCsr (text : Text)
  | invalidImmediate (text : Text)
  | encode (cause : EncodeError)
  deriving DecidableEq, Repr

namespace LineError

def invalidRegisterMessage (text : Text) : Text := "invalid register: " ++ text

def invalidCsrMessage (text : Text) : Text := "invalid csr: " ++ text

open Numeral in
def message : LineError → Text
  | .unknownMnemonic name => "unknown mnemonic `".toList ++ name ++ "`".toList
  | .unknownCall name => "unknown macro `".toList ++ name ++ "(..)`".toList
  | .operandCount name expected found =>
    "`".toList ++ name ++ "` takes ".toList ++ decimal expected ++ " operands, got ".toList
      ++ decimal found
  | .openCall code => "malformed macro call `".toList ++ code ++ "`".toList
  | .invalidRegister text => invalidRegisterMessage text
  | .invalidCsr text => invalidCsrMessage text
  | .invalidImmediate text => "invalid immediate `".toList ++ text ++ "`".toList
  | .encode cause => cause.message

end LineError

/-- The first line of a source text that is refused, counted from one. -/
structure SourceError where
  line : Nat
  cause : LineError
  deriving DecidableEq, Repr

def SourceError.message (e : SourceError) : Text :=
  "line ".toList ++ Numeral.decimal e.line ++ ": ".toList ++ e.cause.message

end Zicsr
