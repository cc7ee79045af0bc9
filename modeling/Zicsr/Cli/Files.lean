import Zicsr.Text.Split
import Zicsr.Numeral

/-
  Reading source files.

  A file is read by its path, and reading fails as the system says or because
  the bytes are no text. A flat directory held in memory answers like one on
  disk.
-/

namespace Zicsr

/-- A failure that the system reports, with its number. -/
structure SystemError where
  code : Nat
  description : Text
  deriving DecidableEq, Repr

namespace SystemError

def notFound : SystemError := ⟨2, "No such file or directory"⟩

def notDirectory : SystemError := ⟨20, "Not a directory"⟩

def isDirectory : SystemError := ⟨21, "Is a directory"⟩

def permissionDenied : SystemError := ⟨13, "Permission denied"⟩

def nameTooLong : SystemError := ⟨36, "File name too long"⟩

/-- The failures that reading a file meets most. -/
def common : List SystemError :=
  [notFound, permissionDenied, notDirectory, isDirectory, nameTooLong]

/-- The failure of a number; the details describe one that is not common. -/
def ofCode (code : Nat) (details : Text) : SystemError :=
  (common.find? (fun e => e.code == code)).getD ⟨code, details⟩

end SystemError

/-- Why a file gives no text. -/
inductive FileError where
  | system (e : SystemError)
  | nulInPath
  | notText
  deriving DecidableEq, Repr

def FileError.message : FileError → Text
  | .system e =>
    e.description ++ " (os error ".toList ++ Numeral.decimal e.code ++ ")".toList
  | .nulInPath => "file name contained an unexpected NUL byte"
  | .notText => "stream did not contain valid UTF-8"

/-- What each path gives when it is read. -/
abbrev FileReader := Text → Except FileError Text

/-- The text of bytes in UTF-8. -/
def decodeText (bytes : List UInt8) : Except FileError Text :=
  match String.fromUTF8? ⟨bytes.toArray⟩ with
  | some s => .ok s.toList
  | none => .error .notText

/-- The files of a directory, by name. -/
abbrev Directory := List (Text × List UInt8)

namespace Directory

/-- Where a path leads. -/
inductive Place where
  | file (bytes : List UInt8)
  | directory
  | nowhere (e : SystemError)

def byteLength (t : Text) : Nat := (t.map Char.utf8Size).foldl (· + ·) 0

def nameLimit : Nat := 255

def pathLimit : Nat := 4095

/-- Where the names of a path lead from above the directory, where nothing is
known but the way further up. -/
def followAbove : List Text → Place
  | [] => .directory
  | name :: rest =>
    if name = [] ∨ name = ".".toList ∨ name = "..".toList then followAbove rest
    else if nameLimit < byteLength name then .nowhere .nameTooLong
    else .nowhere .notFound

/-- Where the names of a path lead from the directory. -/
def follow (d : Directory) : List Text → Place
  | [] => .directory
  | name :: rest =>
    if name = [] ∨ name = ".".toList then follow d rest
    else if name = "..".toList then followAbove rest
    else if nameLimit < byteLength name then .nowhere .nameTooLong
    else match d.lookup name with
      | none => .nowhere .notFound
      | some bytes => if rest = [] then .file bytes else .nowhere .notDirectory

/-- Where a path leads. -/
def place (d : Directory) (path : Text) : Place :=
  if pathLimit < byteLength path then .nowhere .nameTooLong
  else match path with
    | [] => .nowhere .notFound
    | '/' :: rest => followAbove (Text.split (· == '/') rest)
    | path => follow d (Text.split (· == '/') path)

def read (d : Directory) : FileReader := fun path =>
  if '\x00' ∈ path then .error .nulInPath
  else match d.place path with
    | .file bytes => decodeText bytes
    | .directory => .error (.system .isDirectory)
    | .nowhere e => .error (.system e)

/-- Whether every name of a path is short enough for the system. -/
def namesFit (path : Text) : Bool :=
  (Text.split (· == '/') path).all (fun name => byteLength name ≤ nameLimit)

/-- Whether a directory can be made at the path, or is there already. -/
def canHold (d : Directory) (path : Text) : Bool :=
  !('\x00' ∈ path) && namesFit path &&
    match d.place path with
    | .file _ => false
    | .directory => true
    | .nowhere e => e = .notFound

end Directory

end Zicsr
