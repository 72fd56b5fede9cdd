import BitProbe.Architecture
import BitProbe.Instruction.Reading
import BitProbe.Oracle

/-!
What can go wrong.

* `FileError`: why a file cannot be used;
* `SettingsError`: what is wrong with settings, an architecture's name, a
  template or a listing's name;
* `Failure`: any of these, and what a line or an oracle can lack.

Each has its text in one function, `message`; `Failure.causes` lists the
texts of what lies behind a failure.
-/

namespace BitProbe

/-- Why a file cannot be used. -/
inductive FileError where
  | notFound
  | permissionDenied
  | notADirectory
  | isADirectory
  | nameTooLong
  /-- Links lead to one another without an end. -/
  | tooManyLinks
  /-- The contents are no program. -/
  | notAProgram
  /-- The device is full. -/
  | noSpace
  | alreadyThere
  | notEmpty
  /-- There is no such way in or out. -/
  | noWay
  /-- The name holds the character with number zero. -/
  | zeroInName
  /-- An argument of a program holds the character with number zero. -/
  | zeroInArgument
  /-- The contents are no text. -/
  | notText
  /-- Anything else, described by a text. -/
  | other (text : String)
  deriving DecidableEq, Repr

namespace FileError

/-- The number that an operating system has for the reason, if it has one. -/
def number? : FileError → Option Nat
  | notFound => some 2
  | permissionDenied => some 13
  | notADirectory => some 20
  | isADirectory => some 21
  | nameTooLong => some 36
  | tooManyLinks => some 40
  | notAProgram => some 8
  | noSpace => some 28
  | alreadyThere => some 17
  | notEmpty => some 39
  | noWay => some 9
  | _ => none

/-- Why a file cannot be used, in words. -/
def reason : FileError → String
  | notFound => "No such file or directory"
  | permissionDenied => "Permission denied"
  | notADirectory => "Not a directory"
  | isADirectory => "Is a directory"
  | nameTooLong => "File name too long"
  | tooManyLinks => "Too many levels of symbolic links"
  | notAProgram => "Exec format error"
  | noSpace => "No space left on device"
  | alreadyThere => "File exists"
  | notEmpty => "Directory not empty"
  | noWay => "Bad file descriptor"
  | zeroInName => "file name contained an unexpected NUL byte"
  | zeroInArgument => "nul byte found in provided data"
  | notText => "stream did not contain valid UTF-8"
  | other text => text

/-- Why a file cannot be used, in words and with the number if there is
one. -/
def message (e : FileError) : String :=
  match e.number? with
  | some n => e.reason ++ " (os error " ++ toString n ++ ")"
  | none => e.reason

end FileError

/-- What is wrong with settings, or with what they name. -/
inductive SettingsError where
  | unknownArchitecture (name : String)
  /-- A family needs a template that cannot be read. -/
  | noTemplate (a : Architecture) (template : String) (e : FileError)
  /-- A template has no room for a word at the offset. -/
  | templateTooShort (template : String) (size : Nat) (offset : UInt64)
  /-- A settings file does not hold settings. -/
  | malformed
  | noLines
  | noTime
  | tooManyBits (given ceiling : Nat)
  /-- A family that takes bare words is given a template or an offset. -/
  | takesNoTemplate (a : Architecture)
  | noListing (path : String) (e : FileError)
  /-- Anything else, described by a text. -/
  | other (text : String)
  deriving DecidableEq, Repr

/-- What is wrong with settings, as text. -/
def SettingsError.message : SettingsError → String
  | unknownArchitecture name =>
    "unknown architecture \x27" ++ name ++ "\x27 (expected one of: " ++
      String.intercalate ", " (Architecture.names.map (·.1)) ++ ")"
  | noTemplate a template e =>
    a.display ++ " requires a container template, cannot read " ++ template ++
      ": " ++ e.message
  | templateTooShort template size offset =>
    "template " ++ template ++ " is " ++ toString size ++
      " bytes, too short to patch at offset " ++ toString offset.toNat
  | malformed => "invalid config"
  | noLines => "max_lines must be at least 1"
  | noTime => "timeout_ms must be at least 1"
  | tooManyBits given ceiling =>
    "max_modifier_bits " ++ toString given ++ " exceeds ceiling " ++
      toString ceiling
  | takesNoTemplate a =>
    a.display ++ " uses raw-binary mode and takes no template or patch offset"
  | noListing path e => "cannot open corpus " ++ path ++ ": " ++ e.message
  | other text => text

/-- What can go wrong. -/
inductive Failure where
  | reading (e : ReadError)
  | oracle (e : OracleError)
  | settings (e : SettingsError)
  | file (e : FileError)
  | other (text : String)
  deriving DecidableEq, Repr

namespace Failure

/-- What went wrong, as text. -/
def message : Failure → String
  | reading e => "Parse error: " ++ e.message
  | oracle e => "Oracle error: " ++ e.message
  | settings e => "Configuration error: " ++ e.message
  | file e => "I/O error: " ++ e.message
  | other text => text

/-- What lies behind a failure, as texts. -/
def causes : Failure → List String
  | reading e => [e.message]
  | oracle e => [e.message]
  | settings _ => []
  | file e => [e.message]
  | other _ => []

end Failure

/-- The family that a name stands for. -/
def Architecture.ofName (name : String) : Except Failure Architecture :=
  match Architecture.named? name with
  | some a => .ok a
  | none => .error (.settings (.unknownArchitecture name))

end BitProbe
