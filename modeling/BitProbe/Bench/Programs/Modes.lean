import BitProbe.Bench.Numerals
import BitProbe.FileTree

/-!
Who may do what with a file, as it is written and changed.

* `Mode.text`: a mode as letters;
* `Mode.change?`: what becomes of a mode, by a number or by letters;
* `Mode.change_number`: a number is the mode itself.
-/

namespace BitProbe.Bench

namespace Mode

/-- A mode as nine letters. -/
def text (m : Nat) : Octets :=
  let three (shift special : Nat) (letter : Char) : Octets :=
    let bits := m >>> shift % 8
    let runs := bits &&& 1 ≠ 0
    [if bits &&& 4 ≠ 0 then 'r' else '-', if bits &&& 2 ≠ 0 then 'w' else '-',
      if m &&& special ≠ 0 then (if runs then letter else letter.toUpper)
      else if runs then 'x' else '-']
  three 6 0o4000 's' ++ three 3 0o2000 's' ++ three 0 0o1000 't'

/-- The bits that letters of owners stand for. -/
def owners : List (Char × Nat) :=
  [('u', 0o4700), ('g', 0o2070), ('o', 0o1007), ('a', 0o7777)]

/-- The bits that a letter stands for in a mode. -/
def bitsOf (isDirectory : Bool) (m : Nat) (c : Char) : Option Nat :=
  let all (n : Nat) : Nat := n * 0o111
  match c with
  | 'r' => some (all 4)
  | 'w' => some (all 2)
  | 'x' => some (all 1)
  | 'X' => some (if isDirectory || m &&& 0o111 ≠ 0 then all 1 else 0)
  | 's' => some 0o6000
  | 't' => some 0o1000
  | 'u' => some (all (m >>> 6 % 8))
  | 'g' => some (all (m >>> 3 % 8))
  | 'o' => some (all (m % 8))
  | _ => none

/-- The mode after one change: a sign and letters. -/
def step (isDirectory : Bool) (mask who : Nat) (sign : Char) (letters : Octets)
    (m : Nat) : Option Nat := do
  let bits ← letters.mapM (bitsOf isDirectory m)
  let allowed := if who = 0 then 0o7777 - mask else who
  let wanted := bits.foldl (· ||| ·) 0 &&& allowed
  if sign = '+' then return m ||| wanted
  else if sign = '-' then return m - (m &&& wanted)
  else
    let kept := if isDirectory then 0o6000 else 0
    let cleared := (if who = 0 then 0o7777 else who) - kept
    return (m - (m &&& cleared)) ||| wanted

/-- The mode after changes that follow one another without a comma. -/
def steps (isDirectory : Bool) (mask who : Nat) :
    Nat → Octets → Nat → Option Nat
  | 0, _, m => some m
  | _, [], m => some m
  | fuel + 1, sign :: cs, m => do
    if sign ∉ ['+', '-', '='] then none
    else
      let letters := cs.takeWhile fun c => c ∉ ['+', '-', '=']
      let m ← step isDirectory mask who sign letters m
      steps isDirectory mask who fuel (cs.drop letters.length) m

/-- The mode after changes that are written as letters. -/
def changeByLetters? (isDirectory : Bool) (mask : Nat) (o : Octets)
    (m : Nat) : Option Nat :=
  (o.splitOn ',').foldlM (fun m clause => do
    let who := clause.takeWhile fun c => (owners.lookup c).isSome
    let rest := clause.drop who.length
    if rest.isEmpty then none
    else
      let bits := (who.filterMap fun c => owners.lookup c).foldl (· ||| ·) 0
      steps isDirectory mask bits (rest.length + 1) rest m) m

/-- The mode after a change, if that makes sense. Whoever is not named in a
change is meant unless a mask keeps the change from everyone. -/
def change? (isDirectory : Bool) (mask : Nat) (o : Octets) (m : Nat) :
    Option Nat :=
  if o.isEmpty then none
  else if o.all Char.isDigit then
    if digitsIn 8 o = o && ofDigits 8 o ≤ 0o7777 then some (ofDigits 8 o)
    else none
  else changeByLetters? isDirectory mask o m

/-- A number is the mode itself, whatever the mode was. -/
theorem change_number (isDirectory : Bool) (mask : Nat) (o : Octets)
    (m n : Nat) (h : o.all Char.isDigit = true) :
    change? isDirectory mask o m = change? isDirectory mask o n := by
  unfold change?
  simp [h]

end Mode

end BitProbe.Bench
