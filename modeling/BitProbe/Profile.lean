import BitProbe.Architecture
import BitProbe.Text.Blank
import BitProbe.Text.Lines
import BitProbe.Text.Numeral

/-!
How the disassembler of an architecture is run and read.

* `Invocation`: what the disassembler is given, the bare word or a container
  with the word patched in;
* `Profile`: the tool, its arguments, its input and the line of its output
  that counts;
* `Profile.builtIn`: the profile of each family;
* `selectedTokens`: the tokens of one line of an output.
-/

namespace BitProbe

/-- What the disassembler is given. -/
inductive Invocation where
  /-- A file with the eight bytes of the word. -/
  | raw
  /-- A copy of a container file with the eight bytes at an offset. -/
  | templated (template : String) (patchOffset : UInt64)
  deriving DecidableEq

/-- Whether the disassembler is given a container. -/
def Invocation.isTemplated : Invocation → Bool
  | raw => false
  | templated .. => true

/-- How the disassembler of an architecture is run and read. -/
structure Profile where
  architecture : Architecture
  tool : String
  /-- The arguments before the file that holds the word. -/
  toolArgs : List String
  invocation : Invocation
  /-- The number of the output line that counts, from zero. -/
  lineIndex : UInt64
  deriving DecidableEq

namespace Profile

/-- A profile that has bare words disassembled. -/
def raw (architecture : Architecture) (flag : String) : Profile where
  architecture
  tool := "nvdisasm"
  toolArgs := ["-b", flag]
  invocation := .raw
  lineIndex := 1

/-- A profile that has containers disassembled. -/
def templated (architecture : Architecture) (gpu template : String)
    (patchOffset : UInt64) : Profile where
  architecture
  tool := "cuobjdump"
  toolArgs := ["--gpu-architecture", gpu, "--dump-sass"]
  invocation := .templated template patchOffset
  lineIndex := 5

/-- The profile of each family. -/
def builtIn : Architecture → Profile
  | .fermi => raw .fermi "SM21"
  | .kepler => raw .kepler "SM35"
  | .maxwell => templated .maxwell "sm_52" "test_sm52.cubin" 808
  | .pascal => templated .pascal "sm_60" "test_sm60.cubin" 904

end Profile

/-- Whether a token is a comment with an address: digits in base sixteen
between the delimiters of a comment. -/
def isAddressToken (token : String) : Bool :=
  match token.toList with
  | '/' :: '*' :: rest =>
    match rest.reverse with
    | '/' :: '*' :: digits =>
      !digits.isEmpty && digits.all fun c => (Text.hexDigit? c).isSome
    | _ => false
  | _ => false

/-- Tokens without an address at their head. -/
def afterAddress : List String → List String
  | [] => []
  | t :: ts => if isAddressToken t then ts else t :: ts

/-- The tokens of a line of an output, without an address at their head;
none if there is no such line, or nothing else on it. -/
def selectedTokens (index : Nat) (output : String) : Option (List String) :=
  match (Text.linesOf output)[index]? with
  | none => none
  | some line =>
    let tokens := afterAddress (Text.wordsOf line)
    if tokens.isEmpty then none else some tokens

end BitProbe
