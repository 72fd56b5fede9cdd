import BitProbe.Bench.Numerals
import BitProbe.Bench.Program
import BitProbe.Bench.Quoting

/-!
Options of programs.

An option is a dash with letters or two dashes with a word, of which the
beginning is enough. Options may stand among the other arguments, and two
dashes end them.

* `Switch`, `Switch.choose`: an option that a program knows, and the words
  that its value may be;
* `Opt`: an option that has been given;
* `optionsOf`: the options among arguments, and the other arguments;
* `Call.asked`, `Call.given`: a program by the options and arguments it is
  called with;
* `Limits`: a range for the number of an option, and what a number in it is a
  number of;
* `Limits.read`: the number of a text, which lies in the range
  (`Limits.read_isWithin`), or what is wrong with it.
-/

namespace BitProbe.Bench

/-- Whether an option has a value. -/
inductive Takes where
  | nothing
  | value
  /-- A value that may stand in the same argument. -/
  | maybe
  /-- The option is a digit; its value are the digits up to it. -/
  | digits
  deriving DecidableEq

/-- An option that a program knows: its letter, its word or both. -/
structure Switch where
  letter : Option Char
  word : String
  takes : Takes
  /-- The words that its value may be, if only some are allowed; words of one
  meaning stand together. -/
  choices : List (List String) := []
  /-- Whether the beginning of such a word is not enough. -/
  isExact : Bool := false

namespace Switch

/-- An option without a value. -/
def flag (letter : Char) (word : String) : Switch :=
  { letter := some letter, word, takes := .nothing }

/-- An option with a value. -/
def valued (letter : Char) (word : String) : Switch :=
  { letter := some letter, word, takes := .value }

/-- An option that may have a value in the same argument. -/
def mayHave (letter : Char) (word : String) : Switch :=
  { letter := some letter, word, takes := .maybe }

/-- An option without a letter. -/
def long (word : String) (takes : Takes) : Switch := { letter := none, word, takes }

/-- A digit for each option, which together are a number. -/
def numbers : List Switch :=
  ['0', '1', '2', '3', '4', '5', '6', '7', '8', '9'].map fun c =>
    { letter := some c, word := "", takes := .digits }

/-- An option without a letter whose value is one of some words. -/
def choice (word : String) (takes : Takes) (choices : List (List String)) :
    Switch := { letter := none, word, takes, choices }

/-- The word that a value of an option stands for, of which the beginning is
enough, and of words of one meaning the first one; or what is wrong with
it. -/
def choose (s : Switch) (v : Octets) : Except Octets Octets :=
  let first (w : String) : String :=
    ((s.choices.find? (·.contains w)).bind List.head?).getD w
  let words := s.choices.flatten
  match words.find? (·.toList = v),
      ((words.filter fun w => !s.isExact && v.isPrefixOf w.toList).map
        first).eraseDups with
  | some w, _ => .ok (first w).toList
  | none, [w] => .ok w.toList
  | none, fits =>
    .error ((if fits.isEmpty then "invalid" else "ambiguous").toList ++
      " argument ".toList ++ quoted v ++ " for ".toList ++
      quoted ("--" ++ s.word).toList ++ "\nValid arguments are:".toList ++
      s.choices.flatMap fun ws => "\n  - ".toList ++
        ", ".toList.intercalate (ws.map fun w => quoted w.toList))

/-- A value of an option, unless it is not allowed. -/
def accept (s : Switch) (v : Octets) : Except Octets Octets :=
  if s.choices.isEmpty then .ok v else s.choose v

/-- What an option is known by: its word, or its letter if it has none. -/
def key (s : Switch) : String :=
  if s.word.isEmpty then String.ofList s.letter.toList else s.word

/-- The options that every program knows. -/
def common : List Switch :=
  [long "help" .nothing, long "version" .nothing]

end Switch

/-- An option that has been given, by its key, and its value. -/
structure Opt where
  key : String
  value : Option Octets := none

/-- Why options cannot be understood: the switch that a word means, or a
message. -/
def wordSwitch (switches : List Switch) (arg name : Octets) :
    Except Octets Switch :=
  let fits := switches.filter fun s =>
    !s.word.isEmpty && name.isPrefixOf s.word.toList
  match fits.find? (·.word.toList = name), fits with
  | some s, _ => .ok s
  | none, [s] => .ok s
  | none, [] => .error ("unrecognized option \x27".toList ++ arg ++ ['\x27'])
  | none, _ =>
    .error ("option \x27".toList ++ arg ++
      "\x27 is ambiguous; possibilities:".toList ++
      fits.flatMap fun s => " \x27--".toList ++ s.word.toList ++ ['\x27'])

/-- The option of an argument that starts with two dashes, and the arguments
after it. -/
def wordOption (switches : List Switch) (arg : Octets)
    (rest : List Octets) : Except Octets (Opt × List Octets) := do
  let body := arg.drop 2
  let name := body.takeWhile (· ≠ '=')
  let value := if name.length = body.length then none
    else some (body.drop (name.length + 1))
  let s ← wordSwitch switches arg name
  let shown := "option \x27--".toList ++ s.word.toList
  match s.takes, value, rest with
  | .nothing, some _, _ =>
    throw (shown ++ "\x27 doesn\x27t allow an argument".toList)
  | .value, none, v :: rest => return (⟨s.key, some (← s.accept v)⟩, rest)
  | .value, none, [] => throw (shown ++ "\x27 requires an argument".toList)
  | _, some v, rest => return (⟨s.key, some (← s.accept v)⟩, rest)
  | _, none, rest => return (⟨s.key, none⟩, rest)

/-- What keeps arguments from being understood: a message, and the letter
that is no option, if that is why. -/
structure Misread where
  message : Octets
  letter : Option Char := none

/-- The options of arguments, and the other arguments, unless something keeps
them from being understood. -/
structure Parted where
  options : List Opt
  others : Except Misread (List Octets)

namespace Parted

/-- Nothing but what keeps arguments from being understood. -/
def misread (message : Octets) (letter : Option Char) : Parted :=
  ⟨[], .error { message, letter }⟩

/-- One more option before others. -/
def cons (o : Opt) (p : Parted) : Parted :=
  { p with options := o :: p.options }

end Parted

/-- An option with its value, and the arguments after it. -/
def valued (s : Switch) (v : Octets) (rest : List Octets) : Parted :=
  match s.accept v with
  | .ok v => ⟨[⟨s.key, some v⟩], .ok rest⟩
  | .error m => .misread m none

/-- The options of an argument that starts with one dash, after some digits in
it, and the arguments after it. -/
def letterOptions (switches : List Switch) :
    Octets → Octets → List Octets → Parted
  | _, [], rest => ⟨[], .ok rest⟩
  | number, c :: cs, rest =>
    match switches.find? (·.letter = some c) with
    | none =>
      .misread ("invalid option -- \x27".toList ++ [c, '\x27']) (some c)
    | some s =>
      match s.takes, cs, rest with
      | .nothing, cs, rest =>
        (letterOptions switches [] cs rest).cons ⟨s.key, none⟩
      | .digits, cs, rest =>
        let number := number ++ [c]
        (letterOptions switches number cs rest).cons ⟨s.key, some number⟩
      | .maybe, [], rest => ⟨[⟨s.key, none⟩], .ok rest⟩
      | .maybe, cs, rest => valued s cs rest
      | .value, [], v :: rest => valued s v rest
      | .value, [], [] =>
        .misread ("option requires an argument -- \x27".toList ++ [c, '\x27'])
          none
      | .value, cs, rest => valued s cs rest

/-- The options among arguments and the other arguments, what has been found
being the last first. Where options end at the first other argument, `mixed`
is false. -/
def optionsFrom (switches : List Switch) (mixed : Bool) :
    Nat → List Octets → List Opt → List Octets → Parted
  | 0, _, os, others => ⟨os.reverse, .ok others.reverse⟩
  | _, [], os, others => ⟨os.reverse, .ok others.reverse⟩
  | fuel + 1, arg :: rest, os, others =>
    let found (p : Parted) : Parted :=
      let os := p.options.reverse ++ os
      match p.others with
      | .error m => ⟨os.reverse, .error m⟩
      | .ok rest => optionsFrom switches mixed fuel rest os others
    match arg with
    | ['-', '-'] => ⟨os.reverse, .ok (others.reverse ++ rest)⟩
    | '-' :: '-' :: _ =>
      found (match wordOption switches arg rest with
        | .ok (o, rest) => ⟨[o], .ok rest⟩
        | .error m => .misread m none)
    | '-' :: c :: cs => found (letterOptions switches [] (c :: cs) rest)
    | arg =>
      if mixed then optionsFrom switches mixed fuel rest os (arg :: others)
      else ⟨os.reverse, .ok (others.reverse ++ arg :: rest)⟩

/-- The options among arguments and the other arguments. -/
def optionsOf (switches : List Switch) (mixed : Bool) (args : List Octets) :
    Parted :=
  optionsFrom (switches ++ Switch.common) mixed (args.length + 1) args [] []

/-- The options among arguments with the other arguments between them, what has
been found being the last first. The others have no key; those behind two
dashes have two dashes as their key. -/
def orderedFrom (switches : List Switch) :
    Nat → List Octets → List Opt → Parted
  | 0, _, os => ⟨os.reverse, .ok []⟩
  | _, [], os => ⟨os.reverse, .ok []⟩
  | fuel + 1, arg :: rest, os =>
    match arg with
    | ['-', '-'] =>
      ⟨os.reverse ++ rest.map fun a => ⟨"--", some a⟩, .ok []⟩
    | '-' :: c :: cs =>
      let p : Parted := match c, wordOption switches arg rest with
        | '-', .ok (o, rest) => ⟨[o], .ok rest⟩
        | '-', .error m => .misread m none
        | _, _ => letterOptions switches [] (c :: cs) rest
      let os := p.options.reverse ++ os
      match p.others with
      | .error m => ⟨os.reverse, .error m⟩
      | .ok rest => orderedFrom switches fuel rest os
    | arg => orderedFrom switches fuel rest (⟨"", some arg⟩ :: os)

/-- Whether there is an option with a key. -/
def hasOpt (os : List Opt) (key : String) : Bool :=
  os.any (·.key = key)

/-- The value of the last option with a key. -/
def optValue? (os : List Opt) (key : String) : Option Octets :=
  (os.reverse.find? (·.key = key)).bind (·.value)

/-- The last of some options that has been given. -/
def lastOf (os : List Opt) (keys : List String) : Option String :=
  (os.reverse.find? fun o => keys.contains o.key).map (·.key)

/-- What ends an item that is written. -/
def itemEnd (os : List Opt) : Char :=
  if hasOpt os "zero" then Char.ofNat 0 else '\n'

/-- The name of a program without its directories. -/
def plainName (name : Octets) : Octets :=
  (name.reverse.takeWhile (· ≠ '/')).reverse

/-- How a program says what it is. -/
def versionText (name : Octets) : Octets :=
  name ++ (match String.ofList name with
    | "rev" => " from util-linux 2.39.3"
    | "setsid" => " from util-linux 2.39.3"
    | "xargs" => " (GNU findutils) 4.9.0"
    | "find" => " (GNU findutils) 4.9.0"
    | "cmp" => " (GNU diffutils) 3.10"
    | "diff" => " (GNU diffutils) 3.10"
    | "sed" => " (GNU sed) 4.9"
    | "grep" => " (GNU grep) 3.11"
    | "dd" => " (coreutils) 9.4"
    | _ => " (GNU coreutils) 9.4").toList

namespace Work

/-- What comes of an attempt, unless it fails, which ends the program. -/
def accept {ε α : Type} (refuse : ε → Work Unit) (r : Except ε α) :
    Work (Option α) :=
  match r with
  | .ok a => return some a
  | .error e => do
    refuse e
    return none

/-- A task with what options add to it, one after another, unless one of them
ends the program. -/
def addOptions {τ : Type} (add : τ → Opt → Work (Option τ)) :
    τ → List Opt → Work (Option τ)
  | k, [] => return some k
  | k, o :: os => do
    let name := (← get).name
    match o.key with
    | "version" =>
      sayLine (versionText (plainName name))
      return none
    | "help" =>
      sayLine ("Usage: ".toList ++ name ++ " [OPTION]...".toList)
      return none
    | _ =>
      match ← add k o with
      | some k => addOptions add k os
      | none => return none

end Work

/-- A program by a task, what each option adds to it, and what is done for it
with the options and the other arguments. What cannot be understood is not
looked at before the options that precede it. -/
def Call.asked {τ : Type} (c : Call) (switches : List Switch) (mixed : Bool)
    (misread : Misread → Work Unit) (task : τ)
    (add : τ → Opt → Work (Option τ))
    (f : τ → List Opt → List Octets → Work Unit) : Ended :=
  c.perform do
    let p := optionsOf switches mixed c.args
    match ← Work.addOptions add task p.options, p.others with
    | none, _ => return
    | some _, .error m => misread m
    | some k, .ok others => f k p.options others

/-- A program by a task, and what each option and each other argument adds to
it in the order in which they are given. -/
def Call.askedInOrder {τ : Type} (c : Call) (switches : List Switch)
    (task : τ) (add : τ → Opt → Work (Option τ)) (f : τ → Work Unit) : Ended :=
  c.perform do
    let p := orderedFrom (switches ++ Switch.common) (c.args.length + 1) c.args []
    match ← Work.addOptions add task p.options, p.others with
    | none, _ => return
    | some _, .error m => Work.misuse 1 m.message
    | some k, .ok _ => f k

/-- A program by what it does with the options and the arguments that it is
called with. Arguments that cannot be understood end it with a status. -/
def Call.given (c : Call) (switches : List Switch) (mixed : Bool)
    (failure : Nat) (f : List Opt → List Octets → Work Unit) : Ended :=
  c.asked switches mixed (fun m => Work.misuse failure m.message) ()
    (fun _ _ => return some ()) fun _ => f

/-! ### Numbers in a range -/

/-- The numbers that an option can have. -/
structure Limits where
  /-- What is said of a number that cannot be one of them. -/
  what : String
  low : Int
  high : Int
  /-- Whether a sign of less than zero is out of place whatever follows. -/
  isUnsigned : Bool := false

namespace Limits

/-- The largest number that can be counted to. -/
def largest : Int := 2 ^ 63 - 1

/-- The largest number that can be counted to without a sign. -/
def largestUnsigned : Int := 2 ^ 64 - 1

/-- From one number to the largest one without a sign. -/
def upward (what : String) (low : Int) : Limits :=
  { what, low, high := largestUnsigned, isUnsigned := true }

/-- What is wrong with a text. -/
def wrong (l : Limits) (v : Octets) (reason : String) : Octets :=
  l.what.toList ++ ": ".toList ++ quoted v ++
    (if reason.isEmpty then "" else ": " ++ reason).toList

/-- The number of a text, if it lies in the range. -/
def read (l : Limits) (v : Octets) : Except Octets Int :=
  match leadingInteger? false (v.dropWhile isSpace) with
  | some (n, []) =>
    if l.isUnsigned && (v.dropWhile isSpace).head? = some '-' then
      .error (l.wrong v "")
    else if l.low ≤ n ∧ n ≤ l.high then .ok n
    else if 2 ^ 30 ≤ n || n < -2 ^ 30 then
      .error (l.wrong v "Value too large for defined data type")
    else .error (l.wrong v "Numerical result out of range")
  | _ => .error (l.wrong v "")

/-- A number that is read lies in the range. -/
theorem read_isWithin {l : Limits} {v : Octets} {n : Int}
    (h : l.read v = .ok n) : l.low ≤ n ∧ n ≤ l.high := by
  unfold read at h
  split at h
  · split at h
    · simp at h
    · split at h
      · rename_i hn
        simp only [Except.ok.injEq] at h
        exact h ▸ hn
      · split at h <;> simp at h
  · simp at h

end Limits

end BitProbe.Bench
