import BitProbe.Bench.Options
import BitProbe.Bench.Programs.Passing
import BitProbe.Bench.Radix

/-!
Octets as digits and back.

* `Coding`: how octets become digits;
* `Coding.folded`: digits in lines of one length;
* `base64`, `base32`, `basenc`: the programs.
-/

namespace BitProbe.Bench

/-- How octets become digits. -/
inductive Coding where
  | radix (r : Radix)
  | base85

namespace Coding

/-- The codings by the words of options. -/
def named : List (String × Coding) :=
  [("base64", .radix .base64), ("base64url", .radix .base64url),
   ("base32", .radix .base32), ("base32hex", .radix .base32hex),
   ("base16", .radix .base16), ("base2msbf", .radix .base2msbf),
   ("base2lsbf", .radix .base2lsbf), ("z85", .base85)]

/-- Digits in lines of one length; all in one that does not end, if the length
is zero. -/
def folded (width : Nat) (ds : Octets) : Octets :=
  if width = 0 then ds
  else (Radix.parts width ds.length ds).flatMap (· ++ ['\n'])

/-- Octets as digits. -/
def encode? (k : Coding) (o : Octets) : Option Octets :=
  match k with
  | radix r => some (r.encode o)
  | base85 => Base85.encode? o

/-- Digits as octets, and whether there is nothing wrong with them. -/
def decode (k : Coding) (lenient : Bool) (o : Octets) : Octets × Bool :=
  match k with
  | radix r => r.decode lenient o
  | base85 => Base85.decode lenient o

/-- How much of what never ends is a number of groups and of lines. -/
def period (width : Nat) : Nat := 120 * (max 1 width)

/-- Writes a stream in another form. -/
def pour (k : Coding) (os : List Opt) (width : Nat) (s : Stream) :
    Work Unit := do
  if hasOpt os "decode" then
    let (o, fine) := k.decode (hasOpt os "ignore-garbage")
      (if s.isEndless then (s.split Work.enough).1 else s.held)
    Work.say o
    if !fine then Work.complain 1 "invalid input".toList
    else if s.isEndless then Work.pour { held := [], forever := o }
  else if s.isEndless then
    let o := (s.split (period width * s.forever.length)).1
    Work.pour (.endless (folded width ((k.encode? o).getD [])))
  else
    match k.encode? s.held with
    | some ds => Work.say (folded width ds)
    | none =>
      Work.complain 1
        "invalid input (length must be multiple of 4 characters)".toList

/-- The options of the programs. -/
def switches : List Switch :=
  [.flag 'd' "decode", .flag 'i' "ignore-garbage", .valued 'w' "wrap"]

/-- A program by how octets become digits, which options may say. -/
def program (more : List Switch) (coding : List Opt → Option Coding) :
    Program := fun c =>
  let limits : Limits := .upward "invalid wrap size" 0
  let add (w : Nat) (o : Opt) : Except Octets Nat :=
    if o.key ≠ "wrap" then .ok w
    else
      let v := o.value.getD []
      let ds := v.dropWhile isSpace
      -- A number that is too large is as good as none.
      if !ds.isEmpty && ds.all Char.isDigit && 2 ^ 63 ≤ ofDigits 10 ds then .ok 0
      else
        match limits.read v with
        | .ok n => .ok n.toNat
        | .error _ => .error ("invalid wrap size: ".toList ++ quoted v)
  c.asked (switches ++ more) true (fun m => Work.misuse 1 m.message) 76
    (fun w o => Work.accept (Work.complain 1) (add w o)) fun width os paths =>
      match coding os, paths with
      | none, _ => Work.misuse 1 "missing encoding type".toList
      | some _, _ :: p :: _ =>
        Work.misuse 1 ("extra operand ".toList ++ quoted p)
      | some k, paths => do
        let p := paths.headD ['-']
        match ← Work.source p with
        | .ok s => k.pour os width s
        | .error r =>
          if p = ['-'] || r = .isADirectory then
            Work.complain 1 ("read error: ".toList ++ r.reason.toList)
          else Work.refuse p r
        Work.closeInput "closing standard input" [p]

end Coding

/-- Octets as digits of six bits, and back. -/
def base64 : Program := Coding.program [] fun _ => some (.radix .base64)

/-- Octets as digits of five bits, and back. -/
def base32 : Program := Coding.program [] fun _ => some (.radix .base32)

/-- Octets as digits of any kind, and back. -/
def basenc : Program :=
  Coding.program (Coding.named.map fun k => .long k.1 .nothing) fun os =>
    (lastOf os (Coding.named.map (·.1))).bind fun w => Coding.named.lookup w

end BitProbe.Bench
