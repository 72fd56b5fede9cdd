import BitProbe.Failure
import BitProbe.FileTree
import BitProbe.Profile

/-!
Container templates.

A disassembler that takes containers is given a copy of a template with the
eight bytes of the word at an offset.

* `patched`, `patch?`: the copy, and the copy if the word fits;
* `Profile.validate`: whether the word will fit, found out before any word
  is tried;
* `Profile.image`: what the disassembler of a profile is given.
-/

namespace BitProbe

/-- How many bytes a word has. -/
def wordBytes : Nat := 8

/-- The bytes of a template, with those of a word at an offset instead of what
stands there. -/
def patched (template : List UInt8) (offset : Nat) (w : Word) : List UInt8 :=
  template.take offset ++ w.leBytes ++ template.drop (offset + wordBytes)

/-- Where a word at an offset ends, if 64 bits are enough for that number. -/
def wordEnd? (offset : UInt64) : Option UInt64 :=
  if offset.toNat + wordBytes < UInt64.size then
    some (offset + UInt64.ofNat wordBytes)
  else none

/-- The copy of a template with a word at an offset, if the word ends within
it. -/
def patch? (template : List UInt8) (offset : UInt64) (w : Word) :
    Option (List UInt8) :=
  match wordEnd? offset with
  | none => none
  | some stop =>
    if stop.toNat ≤ template.length then
      some (patched template offset.toNat w)
    else none

/-- The sum of an offset and the size of a word, or the largest number of 64
bits if the sum has more. -/
def patchEnd (offset : UInt64) : Nat :=
  min (offset.toNat + wordBytes) (UInt64.size - 1)

/-- Whether the template of a profile has room for a word. -/
def Profile.validate (p : Profile) (t : FileTree) : Except Failure Unit :=
  match p.invocation with
  | .raw => .ok ()
  | .templated template offset =>
    match t.size template with
    | .error e => .error (.settings (.noTemplate p.architecture template e))
    | .ok size =>
      if size < patchEnd offset then
        .error (.settings (.templateTooShort template size offset))
      else .ok ()

/-- What the disassembler of a profile is given for a word. -/
def Profile.image (p : Profile) (t : FileTree) (w : Word) :
    Except OracleError (List UInt8) :=
  match p.invocation with
  | .raw => .ok w.leBytes
  | .templated template offset =>
    match t.read template with
    | .error e =>
      .error (.processFailure
        ("cannot read template " ++ template ++ ": " ++ e.message))
    | .ok bytes =>
      match patch? bytes offset w with
      | some image => .ok image
      | none =>
        .error (.processFailure
          ("patch offset " ++ toString offset.toNat ++ " outside template " ++
            template ++ " (" ++ toString bytes.length ++ " bytes)"))

end BitProbe
