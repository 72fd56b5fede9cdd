import BitProbe.Bench.Numerals
import BitProbe.Bench.Programs.Passing

/-!
Replacing, deleting and squeezing octets.

Sets of octets are written with escapes, ranges, classes and repetitions. One
set is replaced by another one place by place.

* `Tr.Item`: the parts of a set, which `Tr.itemsOf` reads;
* `Tr.problem?`: why two sets do not fit together;
* `Tr.table`, `Tr.squeeze`: what becomes of octets;
* `tr`: the program.
-/

namespace BitProbe.Bench

namespace Tr

/-! ### Sets -/

/-- A part of a set. -/
inductive Item where
  | single (c : Char)
  | range (first last : Char)
  | members (name : String)
  | alike (c : Char)
  /-- An octet several times, or as often as needed. -/
  | copies (c : Char) (times : Option Nat)

/-- Every octet. -/
def all : List Char := (List.range 256).map Char.ofNat

/-- The classes of octets by their names. -/
def classes : List (String × (Char → Bool)) :=
  [("alnum", Char.isAlphanum), ("alpha", Char.isAlpha),
   ("blank", fun c => c = ' ' || c = '\t'),
   ("cntrl", fun c => c < ' ' || c = '\x7f'), ("digit", Char.isDigit),
   ("graph", fun c => '!' ≤ c && c ≤ '~'), ("lower", Char.isLower),
   ("print", isPrintable),
   ("punct", fun c => '!' ≤ c && c ≤ '~' && !c.isAlphanum),
   ("space", isSpace), ("upper", Char.isUpper),
   ("xdigit", fun c => (Text.hexDigit? c).isSome)]

/-- The octets that a part of a set stands for. -/
def Item.octets : Item → Octets
  | single c => [c]
  | range a b =>
    (List.range (b.toNat + 1 - a.toNat)).map fun i => Char.ofNat (a.toNat + i)
  | members name =>
    all.filter ((classes.lookup name).getD fun _ => false)
  | alike c => [c]
  | copies c n => List.replicate (n.getD 0) c

/-- The octets that a set stands for. -/
def octetsOf (items : List Item) : Octets := items.flatMap Item.octets

/-! ### Reading sets -/

/-- An octet of a set, and whether a backslash stood before it. -/
abbrev Mark := Char × Bool

/-- The octets after a backslash, and how many characters they take. -/
def escape (cs : Octets) : Char × Nat :=
  match cs with
  | [] => ('\\', 0)
  | c :: _ =>
    let digits := (cs.take 3).takeWhile fun c => '0' ≤ c && c ≤ '7'
    if digits.isEmpty then
      (match controlNames.find? (·.2 = c) with
        | some (d, _) => d
        | none => c, 1)
    else
      let digits := if 255 < ofDigits 8 digits then digits.take 2 else digits
      (Char.ofNat (ofDigits 8 digits), digits.length)

/-- A set with its escapes resolved. -/
def marks : Nat → Octets → List Mark
  | 0, _ => []
  | _, [] => []
  | fuel + 1, '\\' :: cs =>
    let (c, n) := escape cs
    (c, n ≠ 0) :: marks fuel (cs.drop n)
  | fuel + 1, c :: cs => (c, false) :: marks fuel cs

/-- What is to be said about the escapes in a set. -/
def warnings : Nat → Octets → List Octets
  | 0, _ => []
  | _, [] => []
  | fuel + 1, '\\' :: cs =>
    let (_, n) := escape cs
    let digits := (cs.take 3).takeWhile fun c => '0' ≤ c && c ≤ '7'
    (if n = 0 then
      ["warning: an unescaped backslash at end of string is not portable".toList]
    else if 255 < ofDigits 8 digits then
      ["warning: the ambiguous octal escape \\".toList ++ digits ++
        " is being\n\tinterpreted as the 2-byte sequence \\0".toList ++
        digits.take 2 ++ ", ".toList ++ digits.drop 2]
    else []) ++ warnings fuel (cs.drop n)
  | fuel + 1, _ :: cs => warnings fuel cs

/-- An octet in a message. -/
def shown (c : Char) : Octets :=
  if isPrintable c then [c]
  else '\\' :: (Nat.toDigits 8 c.toNat).leftpad 3 '0'

/-- Octets in a message. -/
def shownAll (o : Octets) : Octets :=
  o.flatMap fun c => if c = '\\' then ['\\', '\\']
    else if isPrintable c then [c] else controlText c

/-- The marks before the first pair of two signs, and those after it. -/
def upTo (a b : Char) : List Mark → List Mark → Option (List Mark × List Mark)
  | x :: y :: rest, before =>
    if x = (a, false) && y = (b, false) then some (before.reverse, rest)
    else upTo a b (y :: rest) (x :: before)
  | _, _ => none

/-- Whether marks are a star, digits and a closing bracket. -/
def isCount (ms : List Mark) : Bool :=
  match ms with
  | ('*', false) :: rest =>
    let digits := rest.takeWhile fun m => m.1.isDigit && !m.2
    (rest.drop digits.length).head? = some (']', false)
  | _ => false

/-- A repetition after an opening bracket, and the marks after it; or nothing
if there is none. -/
def copies? (ms : List Mark) : Except Octets (Option (Item × List Mark)) :=
  match ms with
  | (c, _) :: ('*', false) :: rest =>
    let count := rest.takeWhile fun m => !m.2 && m.1 ≠ ']'
    match rest.drop count.length with
    | (']', false) :: after =>
      let digits := count.map (·.1)
      let base := if digits.head? = some '0' then 8 else 10
      if digits.isEmpty then .ok (some (.copies c none, after))
      else if digitsIn base digits = digits then
        let n := ofDigits base digits
        .ok (some (.copies c (if n = 0 then none else some n), after))
      else
        .error ("invalid repeat count ".toList ++ quoted digits ++
          " in [c*n] construct".toList)
    | _ => .ok none
  | _ => .ok none

/-- A class or an octet and those like it after an opening bracket, and the
marks after it; or nothing if there is none. -/
def group? (ms : List Mark) : Except Octets (Option (Item × List Mark)) :=
  match ms with
  | (k, false) :: rest =>
    if k ≠ ':' && k ≠ '=' then .ok none
    else
      match upTo k ']' rest [] with
      | none => .ok none
      | some (inner, after) =>
        let name := inner.map (·.1)
        if name.isEmpty then
          .error (if k = ':' then
            "missing character class name \x27[::]\x27".toList
            else "missing equivalence class character \x27[==]\x27".toList)
        else if k = ':' then
          let name' := String.ofList name
          if (classes.lookup name').isSome then
            .ok (some (.members name', after))
          else if isCount rest then .ok none
          else .error ("invalid character class ".toList ++
            quoted (shownAll name))
        else
          match name with
          | [c] => .ok (some (.alike c, after))
          | _ =>
            if isCount rest then .ok none
            else .error (shownAll name ++
              ": equivalence class operand must be a single character".toList)
  | _ => .ok none

/-- The parts of a set. -/
def itemsOf : Nat → List Mark → Except Octets (List Item)
  | 0, _ => .ok []
  | fuel + 1, ms =>
    match ms with
    | a :: b :: c :: rest => do
      let special ←
        if a = ('[', false) then do
          match ← group? (b :: c :: rest) with
          | some r => pure (some r)
          | none => copies? (b :: c :: rest)
        else pure none
      match special with
      | some (i, after) => return i :: (← itemsOf fuel after)
      | none =>
        if b = ('-', false) then
          if c.1 < a.1 then
            throw ("range-endpoints of \x27".toList ++ shown a.1 ++ ['-'] ++
              shown c.1 ++ "\x27 are in reverse collating sequence order".toList)
          else return .range a.1 c.1 :: (← itemsOf fuel rest)
        else return .single a.1 :: (← itemsOf fuel (b :: c :: rest))
    | ms => return ms.map fun m => .single m.1

/-- The parts of a set, or why it cannot be read. -/
def read (o : Octets) : Except Octets (List Item) :=
  itemsOf (o.length + 1) (marks (o.length + 1) o)

/-! ### Two sets -/

/-- Whether a part of a set is a class of letters of one case. -/
def Item.isCase : Item → Bool
  | members n => n = "upper" || n = "lower"
  | _ => false

/-- Whether a part of a set is a class. -/
def Item.isClass : Item → Bool
  | members _ => true
  | _ => false

/-- Whether a part of a set is an octet as often as needed. -/
def Item.isOpen : Item → Bool
  | copies _ none => true
  | _ => false

/-- The places at which classes of letters of one case start. -/
def casePlaces (items : List Item) : List Nat :=
  (items.foldl (fun (acc : List Nat × Nat) i =>
    (if i.isCase then acc.2 :: acc.1 else acc.1, acc.2 + i.octets.length))
    ([], 0)).1

/-- The second set with the octet that is wanted as often as needed. -/
def closed (size : Nat) (items : List Item) : List Item :=
  let missing := size - (octetsOf items).length
  items.map fun i =>
    match i with
    | .copies c none => .copies c (some missing)
    | i => i

/-- The octets of the set that is replaced. -/
def domain (complement : Bool) (items : List Item) : Octets :=
  let o := octetsOf items
  if complement then all.filter fun c => !o.contains c else o

/-- Why two sets do not fit together, if so. The flags say that the first one
is what it does not name, that its octets are replaced, and that it is cut
off where the second one ends. -/
def problem? (complement translating truncating : Bool) (s t : List Item) :
    Option String :=
  let size := (domain complement s).length
  let t' := closed size t
  let given := (octetsOf t').length
  if 1 < (t.filter Item.isOpen).length then
    some "only one [c*] repeat construct may appear in string2"
  else if !translating then
    if t.any Item.isOpen then
      some "the [c*] construct may appear in string2 only when translating"
    else none
  else if t.any fun i => match i with
      | .alike _ => true
      | _ => false then
    some "[=c=] expressions may not appear in string2 when translating"
  else if t.any fun i => i.isClass && !i.isCase then
    some ("when translating, the only character classes that may appear in" ++
      "\nstring2 are \x27upper\x27 and \x27lower\x27")
  else if !complement && (casePlaces t').any fun p =>
      p ≤ size && !(casePlaces s).contains p then
    some "misaligned [:upper:] and/or [:lower:] construct"
  else if given < size && !truncating && given = 0 then
    some "when not truncating set1, string2 must be non-empty"
  else if given < size && !truncating && t.getLast?.any Item.isClass then
    some ("when translating with string1 longer than string2,\nthe latter " ++
      "string must not end with a character class")
  else if complement && s.any Item.isClass &&
      !((octetsOf t').eraseDups.length ≤ 1 &&
        (given < size || given = size)) then
    some ("when translating with complemented character classes,\nstring2 " ++
      "must map all characters in the domain to one")
  else none

/-- What every octet becomes, by its number. Of two replacements of one octet
the last one counts. -/
def table (complement truncating : Bool) (s t : List Item) : Array Char :=
  let d := domain complement s
  let given := octetsOf (closed d.length t)
  let last := given.getLast?
  let pairs := d.zipIdx.filterMap fun (x : Char × Nat) =>
    match given[x.2]?, truncating with
    | some y, _ => some (x.1, y)
    | none, true => none
    | none, false => last.map (x.1, ·)
  pairs.foldl (fun a p => a.set! p.1.toNat p.2) all.toArray

/-- Octets without repetitions of those that satisfy a test. -/
def squeeze (p : Char → Bool) (o : Octets) : Octets :=
  (o.foldl (fun (acc : Octets) c =>
    if p c && acc.head? = some c then acc else c :: acc) []).reverse

/-- Where nothing is to be squeezed, octets stay as they are. -/
theorem squeeze_nothing (o : Octets) : squeeze (fun _ => false) o = o := by
  have h : ∀ (o acc : Octets), o.foldl (fun (acc : Octets) c =>
      if (false && acc.head? = some c) = true then acc else c :: acc) acc =
      o.reverse ++ acc := by
    intro o
    induction o with
    | nil => intro acc; rfl
    | cons c cs ih => intro acc; simp
  have := h o []
  simp only [List.append_nil] at this
  unfold squeeze
  rw [this, List.reverse_reverse]

/-- What the program is asked to do. -/
structure Task where
  complement : Bool
  deletes : Bool
  squeezes : Bool
  truncates : Bool

/-- What becomes of octets. -/
def Task.apply (k : Task) (s : List Item) (t : Option (List Item)) :
    Octets → Octets :=
  let member (o : Octets) : Array Bool :=
    o.foldl (fun a c => a.set! c.toNat true) (Array.replicate 256 false)
  let first := member (domain k.complement s)
  let chosen (a : Array Bool) (c : Char) : Bool := a[c.toNat]?.getD false
  match t with
  | none =>
    if k.deletes then fun o => o.filter fun c => !chosen first c
    else squeeze (chosen first)
  | some t =>
    let second := member (octetsOf (closed (domain k.complement s).length t))
    if k.deletes then fun o =>
      squeeze (chosen second) (o.filter fun c => !chosen first c)
    else
      let a := table k.complement k.truncates s t
      let replaced (o : Octets) : Octets :=
        o.map fun c => a[c.toNat]?.getD c
      if k.squeezes then fun o => squeeze (chosen second) (replaced o)
      else replaced

/-- The parts of sets, one after another, each of which may give rise to
warnings; or nothing if one cannot be read. -/
def readAll : List Octets → Work (Option (List (List Item)))
  | [] => return some []
  | s :: more => do
    (warnings (s.length + 1) s).forM (Work.complain 0)
    match ← Work.accept (Work.complain 1) (read s) with
    | none => return none
    | some items => return (← readAll more).map (items :: ·)

end Tr

open Tr in
/-- Replaces, deletes and squeezes octets of the input. -/
def tr : Program := fun c =>
  let switches : List Switch :=
    [.flag 'c' "complement", .flag 'C' "", .flag 'd' "delete",
     .flag 's' "squeeze-repeats", .flag 't' "truncate-set1"]
  c.given switches false 1 fun os sets =>
    let k : Task :=
      { complement := (lastOf os ["complement", "C"]).isSome
        deletes := hasOpt os "delete"
        squeezes := hasOpt os "squeeze-repeats"
        truncates := hasOpt os "truncate-set1" }
    let least := if k.deletes = k.squeezes then 2 else 1
    let most := if k.deletes && !k.squeezes then 1 else 2
    let misuse (m : Octets) (more : String) : Work Unit := do
      Work.complain 1 m
      if !more.isEmpty then Work.sayOn 2 (more.toList ++ ['\n'])
      Work.sayOn 2 ("Try \x27".toList ++ c.name ++
        " --help\x27 for more information.\n".toList)
    if sets.isEmpty then misuse "missing operand".toList ""
    else if sets.length < least then
      misuse ("missing operand after ".toList ++ quoted (sets.getLast?.getD []))
        (if k.squeezes then
          "Two strings must be given when both deleting and squeezing repeats."
        else "Two strings must be given when translating.")
    else if most < sets.length then
      misuse ("extra operand ".toList ++ quoted ((sets[most]?).getD []))
        (if sets.length = 2 then
          "Only one string may be given when deleting without squeezing repeats."
        else "")
    else do
      match ← readAll sets with
      | none => return
      | some items =>
        let s := items.headD []
        let t := items[1]?
        let translating := t.isSome && !k.deletes
        let wrong :=
          if s.any Item.isOpen then
            some "the [c*] repeat construct may not appear in string1"
          else t.bind fun t =>
            problem? k.complement translating k.truncates s t
        match wrong with
        | some m => Work.complain 1 m.toList
        | none =>
          match ← Work.takeInput with
          | .error r =>
            Work.complain 1 ("read error: ".toList ++ r.reason.toList)
          | .ok s' => Work.pass (k.apply s t) s'

end BitProbe.Bench
