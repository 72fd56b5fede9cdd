import BitProbe.Oracle
import BitProbe.Settings
import BitProbe.Template
import BitProbe.Text.Numeral
import BitProbe.Text.Utf8

/-!
Disassemblers.

A disassembler is a program that is run on a scratch file with one word in
it. The programs of a machine are given by what starting one leads to, and
may change files and remember what they did.

* `Launch`, `Tools`: what starting a program leads to;
* `Disassembler`: a profile, and how long and how often its program is run;
* `Disassembler.check`: whether the program can be run at all;
* `Disassembler.attempt`: the answer to a word from one run;
* `Disassembler.round`, `Disassembler.retrying`, `Disassembler.oracle`: the
  answer from as many runs as are allowed.
-/

namespace BitProbe

/-- What starting a program leads to. -/
inductive Launch where
  /-- There is no such program, or it cannot be run. -/
  | refused (e : FileError)
  /-- The program has ended, with these bytes on its two outputs. -/
  | ended (out err : List UInt8)
  /-- The program did not end in time. -/
  | unfinished
  deriving DecidableEq

/-- What there is besides the programs: files, and what programs remember. -/
abbrev World (σ : Type) := FileTree × σ

/-- The programs of a machine: what starting one with arguments and a time
limit in milliseconds leads to. -/
abbrev Tools (σ : Type) :=
  String → List String → Nat → World σ → Launch × World σ

/-- A program to disassemble words with. -/
structure Disassembler where
  profile : Profile
  /-- How long one run may take, in milliseconds. -/
  timeoutMs : Nat
  /-- How often a run that failed is repeated. -/
  retries : UInt32

namespace Disassembler

/-- The disassembler of a family that settings describe. -/
def ofSettings (c : Settings) (a : Architecture) : Disassembler where
  profile := c.profileFor a
  timeoutMs := c.timeoutMs.toNat
  retries := c.retries

/-- The limits of a disassembler, as text. -/
def display (d : Disassembler) : String :=
  "ProcessOracle(timeout=" ++ Text.duration d.timeoutMs ++ ", retries=" ++
    toString d.retries.toNat ++ ")"

/-- The text of what a program has written: its output, and then its
errors. -/
def outputText (out err : List UInt8) : String :=
  String.ofList (Text.Utf8.decodeLossy out ++ Text.Utf8.decodeLossy err)

/-- The text that a run has led to. -/
def textOf (d : Disassembler) : Launch → Answer
  | .refused e =>
    .error (.processFailure
      ("failed to launch " ++ d.profile.tool ++ ": " ++ e.message))
  | .ended out err => .ok (outputText out err)
  | .unfinished =>
    .error (.processFailure
      (d.profile.tool ++ " timed out after " ++ Text.duration d.timeoutMs))

variable {σ : Type}

/-- Runs the program with arguments. -/
def run (d : Disassembler) (tools : Tools σ) (args : List String)
    (w : World σ) : Answer × World σ :=
  let (l, w) := tools d.profile.tool args d.timeoutMs w
  (d.textOf l, w)

/-- Whether the program can be run at all: it is asked for its version, and
any end is well. -/
def check (d : Disassembler) (tools : Tools σ) (w : World σ) :
    Except Failure Unit × World σ :=
  match d.run tools ["--version"] w with
  | (.ok _, w) => (.ok (), w)
  | (.error e, w) => (.error (.oracle e), w)

/-- The end of a scratch file's name. -/
def scratchSuffix : Invocation → String
  | .raw => ".bin"
  | .templated .. => ".cubin"

/-- The name of the scratch file with a number. -/
def scratchName (i : Invocation) (n : Nat) : String :=
  "bitsieve-" ++ String.ofList ((Text.decimal n).leftpad 6 '0') ++
    scratchSuffix i

/-- A name that no file has among the scratch files. Of more numbers than
there are files one is free. -/
def freshName (i : Invocation) (t : FileTree) : String :=
  let used := t.children FileTree.scratchDirectory
  let names := (List.range (used.length + 1)).map (scratchName i)
  (names.find? fun n => !used.contains n).getD (scratchName i 0)

/-- The path of a scratch file. -/
def scratchPath (name : String) : String :=
  "/" ++ String.intercalate "/" (FileTree.scratchDirectory ++ [name])

/-- One run on a word. The scratch file is there as long as the program
runs. -/
def attempt (d : Disassembler) (tools : Tools σ) : Oracle (World σ) :=
  fun word w =>
    match d.profile.image w.1 word with
    | .error e => (.error e, w)
    | .ok image =>
      let name := freshName d.profile.invocation w.1
      let place := FileTree.scratchDirectory ++ [name]
      let (a, w) := d.run tools (d.profile.toolArgs ++ [scratchPath name])
        ((w.1.put place (.file image)).setMode place 0o600, w.2)
      (a.bind classify, (w.1.remove place, w.2))

/-- One run on a word, after so many that have been repeated: what it leads to,
or, if it is repeated as well, how many have been and what there is besides. -/
def round (o : Oracle σ) (retries : UInt32) (word : Word) :
    UInt32 × σ → (Answer × σ) ⊕ (UInt32 × σ)
  | (repeated, s) =>
    let (a, s) := o word s
    if a.isFailure && repeated < retries then .inr (repeated + 1, s)
    else .inl (a, s)

/-- A run is repeated if it has failed and may be repeated. -/
theorem round_eq_inr_iff {o : Oracle σ} {retries : UInt32} {word : Word}
    {x next : UInt32 × σ} :
    round o retries word x = .inr next ↔
      (o word x.2).1.isFailure = true ∧ x.1 < retries ∧
        next = (x.1 + 1, (o word x.2).2) := by
  dsimp only [round]
  split
  · rename_i hagain
    rw [Bool.and_eq_true, decide_eq_true_eq] at hagain
    rw [Sum.inr.injEq, eq_comm, and_iff_right hagain.1,
      and_iff_right hagain.2]
  · rename_i hend
    rw [Bool.and_eq_true, decide_eq_true_eq] at hend
    refine ⟨fun h => (by cases h), fun h => ?_⟩
    exact absurd ⟨h.1, h.2.1⟩ hend

/-- A number that is smaller than another one can be counted on from. -/
theorem toNat_succ_of_lt {m n : UInt32} (h : m < n) :
    (m + 1).toNat = m.toNat + 1 := by
  have hsize := n.toNat_lt
  rw [UInt32.lt_iff_toNat_lt] at h
  rw [UInt32.toNat_add, UInt32.toNat_one]
  omega

/-- Runs on a word, until one is not repeated; that one counts. -/
def retrying (o : Oracle σ) (retries : UInt32) (word : Word)
    (x : UInt32 × σ) : Answer × σ :=
  match _ : round o retries word x with
  | .inl result => result
  | .inr next => retrying o retries word next
termination_by retries.toNat - x.1.toNat
decreasing_by
  obtain ⟨-, hlt, rfl⟩ := round_eq_inr_iff.1 ‹_›
  have hnext := toNat_succ_of_lt hlt
  rw [UInt32.lt_iff_toNat_lt] at hlt
  dsimp only
  omega

/-- The oracle that runs the program, and again after a failure. -/
def oracle (d : Disassembler) (tools : Tools σ) : Oracle (World σ) :=
  fun word w => retrying (d.attempt tools) d.retries word (0, w)

end Disassembler

end BitProbe
