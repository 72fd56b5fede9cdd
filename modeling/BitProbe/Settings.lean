import BitProbe.Alias
import BitProbe.DecodeTable
import BitProbe.Failure
import BitProbe.Profile

/-!
Settings of a run.

Every setting has a default. A profile change replaces some fields of the
profile of one family; changes apply in their order.

* `ProfileChange`, `Settings`;
* `Settings.validate`: whether a run can work with the settings;
* `Settings.profileFor`: the profile of a family with the changes made.
-/

namespace BitProbe

/-- Replaces some fields of the profile of a family. -/
structure ProfileChange where
  /-- Any accepted name of the family. -/
  architecture : String := ""
  tool : Option String := none
  toolArgs : Option (List String) := none
  template : Option String := none
  patchOffset : Option UInt64 := none
  lineIndex : Option UInt64 := none
  deriving DecidableEq

/-- The settings of a run. -/
structure Settings where
  /-- How many lines of the listing are read. -/
  maxLines : UInt64 := 100
  /-- How long one call of the disassembler may take, in milliseconds. -/
  timeoutMs : UInt64 := 10000
  /-- How often a process that failed is tried again. -/
  retries : UInt32 := 2
  /-- A decoded line with fewer tokens says nothing. -/
  minTokens : UInt64 := 4
  /-- The largest number of modifier bits that are enumerated. -/
  maxModifierBits : UInt64 := 12
  /-- Whether the words of a sweep or a table may be asked in any order. -/
  parallel : Bool := false
  /-- Mnemonics that denote one opcode. -/
  aliases : List (String × String) := [("LDG", "TEX"), ("RED", "ATOM")]
  profiles : List ProfileChange := []
  deriving DecidableEq

namespace ProfileChange

/-- Whether a change belongs to the profile of a family. -/
def appliesTo (c : ProfileChange) (a : Architecture) : Bool :=
  Architecture.named? c.architecture = some a

/-- A profile with a change made. A profile without a container has no
template and no offset to replace. -/
def apply (p : Profile) (c : ProfileChange) : Profile :=
  { p with
    tool := c.tool.getD p.tool
    toolArgs := c.toolArgs.getD p.toolArgs
    lineIndex := c.lineIndex.getD p.lineIndex
    invocation := match p.invocation with
      | .raw => .raw
      | .templated template offset =>
        .templated (c.template.getD template) (c.patchOffset.getD offset) }

/-- Whether a family has the fields that a change replaces. -/
def validate (c : ProfileChange) : Except Failure Unit :=
  match Architecture.ofName c.architecture with
  | .error e => .error e
  | .ok a =>
    if !(Profile.builtIn a).invocation.isTemplated &&
        (c.template.isSome || c.patchOffset.isSome) then
      .error (.settings (.takesNoTemplate a))
    else .ok ()

end ProfileChange

namespace Settings

/-- Whether all of a list of changes can be made; the first that cannot
counts. -/
def validateChanges : List ProfileChange → Except Failure Unit
  | [] => .ok ()
  | c :: cs =>
    match c.validate with
    | .error e => .error e
    | .ok () => validateChanges cs

/-- Whether a run can work with the settings. -/
def validate (c : Settings) : Except Failure Unit :=
  if c.maxLines = 0 then .error (.settings .noLines)
  else if c.timeoutMs = 0 then .error (.settings .noTime)
  else if DecodeTable.positionsCeiling < c.maxModifierBits.toNat then
    .error (.settings (.tooManyBits c.maxModifierBits.toNat
      DecodeTable.positionsCeiling))
  else validateChanges c.profiles

/-- The aliases as a table. -/
def aliasTable (c : Settings) : AliasTable :=
  .ofPairs c.aliases

/-- The profile of a family, with every change that belongs to it made in
order. -/
def profileFor (c : Settings) (a : Architecture) : Profile :=
  (c.profiles.filter (·.appliesTo a)).foldl ProfileChange.apply
    (Profile.builtIn a)

end Settings

end BitProbe
