import Zicsr.Assembly.Error
import Zicsr.Cli.Files
import Zicsr.Text.Quoted

/-
  Why a command fails, in words and as a value.

  The message says it to the user. The diagnostic shows the error as a value of
  named parts, for the log.
-/

namespace Zicsr

/-- Why a command fails. -/
inductive CommandError where
  | line (e : LineError)
  | source (e : SourceError)
  | invalidRegister (text : Text)
  | invalidCsr (text : Text)
  | invalidValue (text : Text)
  | noFieldView (csr : Csr)
  | file (path : Text) (e : FileError)
  | nestedShell
  deriving DecidableEq, Repr

def CommandError.message : CommandError → Text
  | .line e => e.message
  | .source e => e.message
  | .invalidRegister text => LineError.invalidRegisterMessage text
  | .invalidCsr text => LineError.invalidCsrMessage text
  | .invalidValue text => "invalid value `".toList ++ text ++ "`".toList
  | .noFieldView csr => csr.display ++ " has no field view".toList
  | .file path e =>
    "cannot read ".toList ++ Text.quoted path ++ ": ".toList ++ e.message
  | .nestedShell => "already in the repl"

/-! ## Values of named parts -/

namespace Diagnostic

/-- A constructor applied to values. -/
def apply (name : Text) (values : List Text) : Text :=
  name ++ '(' :: List.intercalate ", " values ++ [')']

def record (name : Text) (fields : List (Text × Text)) : Text :=
  name ++ " \x7b ".toList ++
    List.intercalate ", " (fields.map (fun f => f.1 ++ ": ".toList ++ f.2)) ++ " \x7d".toList

end Diagnostic

open Diagnostic Numeral

def EncodeError.diagnostic : EncodeError → Text
  | .registerOutOfRange n => apply "RegisterOutOfRange" [decimal n]
  | .immediateOutOfRange n => apply "ImmediateOutOfRange" [decimal n]
  | .csrOutOfRange n => apply "CsrOutOfRange" [decimal n]
  | .readOnlyWrite n => apply "WriteToReadOnlyCsr" [decimal n]
  | .operandMismatch op => apply "OperandMismatch" [Text.quoted op.mnemonic]

/-- An invalid operand as a value that wraps its text. -/
def invalidDiagnostic (name text : Text) : Text := apply name [apply name [Text.quoted text]]

def LineError.diagnostic : LineError → Text
  | .unknownMnemonic name => apply "UnknownMnemonic" [Text.quoted name]
  | .unknownCall name => apply "UnknownMacro" [Text.quoted name]
  | .operandCount name expected found =>
    record "OperandCount" [("mnemonic", Text.quoted name), ("expected", decimal expected),
      ("found", decimal found)]
  | .openCall code => apply "MalformedMacro" [Text.quoted code]
  | .invalidRegister text => invalidDiagnostic "InvalidRegister" text
  | .invalidCsr text => invalidDiagnostic "InvalidCsr" text
  | .invalidImmediate text => apply "InvalidImmediate" [Text.quoted text]
  | .encode cause => apply "Encode" [cause.diagnostic]

def SystemError.kind (e : SystemError) : Text :=
  match e.code with
  | 1 => "PermissionDenied"
  | 2 => "NotFound"
  | 13 => "PermissionDenied"
  | 20 => "NotADirectory"
  | 21 => "IsADirectory"
  | 36 => "InvalidFilename"
  | 40 => "FilesystemLoop"
  | _ => "Uncategorized"

def FileError.plainDiagnostic (kind : Text) (e : FileError) : Text :=
  record "Error" [("kind", kind), ("message", Text.quoted e.message)]

def FileError.diagnostic : FileError → Text
  | .system e =>
    record "Os" [("code", decimal e.code), ("kind", e.kind),
      ("message", Text.quoted e.description)]
  | .nulInPath => plainDiagnostic "InvalidInput" .nulInPath
  | .notText => plainDiagnostic "InvalidData" .notText

def CommandError.diagnostic : CommandError → Text
  | .line e => apply "Parse" [e.diagnostic]
  | .source e =>
    apply "Asm" [record "AsmError" [("line", decimal e.line), ("source", e.cause.diagnostic)]]
  | .invalidRegister text => invalidDiagnostic "InvalidRegister" text
  | .invalidCsr text => invalidDiagnostic "InvalidCsr" text
  | .invalidValue text => apply "InvalidValue" [Text.quoted text]
  | .noFieldView csr => record "NoFieldView" [("csr", apply "Csr" [decimal csr.address])]
  | .file path e =>
    record "Io" [("path", Text.quoted path), ("source", e.diagnostic)]
  | .nestedShell => "NestedRepl"

end Zicsr
