import BitProbe.Bench.Programs.Passing

/-!
Paths in the arguments of programs that change files.

* `within`, `lastName`: paths put together and taken apart;
* `Work.cannot`, `Work.asks`: what such programs say and ask;
* `Backup`: the names that files get before others take their place, with
  `Backup.name_simple`: a simple name is the old one with something behind
  it.
-/

namespace BitProbe

namespace FileTree

/-- Whether there is something in a directory. -/
def isFilled (t : FileTree) (names : List String) : Bool :=
  !(t.children names).isEmpty

end FileTree

namespace Bench

/-- The path of something with a name in a directory. -/
def within (directory name : Octets) : Octets :=
  Text.dropRight (· = '/') directory ++
    (if directory.isEmpty then [] else ['/']) ++ name

/-- The part of a path after its last slash; slashes at its end do not
count. -/
def lastName (path : Octets) : Octets :=
  let p := Text.dropRight (· = '/') path
  if p.isEmpty then path.take 1
  else (p.reverse.takeWhile (· ≠ '/')).reverse

/-- Whether a path leads to a directory. -/
def isDirectory (t : FileTree) (path : Octets) : Bool :=
  (t.lookup path.toText).toOption = some .directory

/-- Says that a file cannot be dealt with, in words that stand before its
name. -/
def Work.cannot (words : String) (path : Octets) (e : FileError) :
    Work Unit :=
  Work.complain 1 (words.toList ++ named path ++ ": ".toList ++
    e.reason.toList)

/-- Asks for an answer, which is a line of the input that starts with the
letter of a yes or does not. -/
def Work.asks (question : Octets) : Work Bool := do
  let e ← get
  Work.sayOn 2 (e.name ++ ": ".toList ++ question ++ "? ".toList)
  let line := (e.input.split Work.enough).1.takeWhile (· ≠ '\n')
  Work.leave (e.input.split (line.length + 1)).2
  return line.head? = some 'y' || line.head? = some 'Y'

/-! ### Files kept by other names -/

/-- By what names files are kept whose place others take. -/
inductive Backup.Kind where
  | simple
  | numbered
  /-- By a number if there are such files already. -/
  | existing
  deriving DecidableEq

/-- How files are kept whose place others take. -/
structure Backup where
  kind : Backup.Kind
  suffix : Octets

namespace Backup

/-- The words for kinds; two of them mean that nothing is kept. -/
def words : List (List String × Option Kind) :=
  [(["none", "off"], none), (["simple", "never"], some .simple),
   (["existing", "nil"], some .existing), (["numbered", "t"], some .numbered)]

/-- The option that asks for files to be kept. -/
def switch : Switch :=
  { letter := none, word := "backup", takes := .maybe }

/-- The kind that a word means, of which the beginning is enough, or what is
wrong with it. -/
def kindOf (context : String) (v : Octets) : Except Octets (Option Kind) :=
  let fits := words.filter fun e => e.1.any fun w => v.isPrefixOf w.toList
  match words.find? fun e => e.1.any fun w => w.toList = v, fits with
  | some e, _ => .ok e.2
  | none, [e] => .ok e.2
  | none, fits =>
    .error ((if fits.isEmpty then "invalid" else "ambiguous").toList ++
      " argument ".toList ++ quoted v ++ " for ".toList ++
      quoted context.toList ++ "\nValid arguments are:".toList ++
      words.flatMap fun e => "\n  - ".toList ++
        ", ".toList.intercalate (e.1.map fun w => quoted w.toList))

/-- How files are kept by options and variables, if they are, or what is
wrong. -/
def ofOptions (environment : List (Octets × Octets)) (os : List Opt) :
    Except Octets (Option Backup) :=
  let suffix := optValue? os "suffix"
  let usual := ((environment.lookup "SIMPLE_BACKUP_SUFFIX".toList).filter
    fun v => !v.isEmpty && !v.contains '/').getD ['~']
  let good := suffix.filter fun v => !v.isEmpty && !v.contains '/'
  let given := (os.reverse.find? fun o => o.key = "backup").bind (·.value)
  let asked := (lastOf os ["backup", "b", "suffix"]).isSome
  let kind : Except Octets (Option Kind) :=
    if !asked then .ok none
    else
      match given, environment.lookup "VERSION_CONTROL".toList with
      | some v, _ => kindOf "backup type" v
      | none, some v => kindOf "$VERSION_CONTROL" v
      | none, none => .ok (some .existing)
  kind.map fun k => k.map fun kind => ⟨kind, good.getD usual⟩

/-- The number in a name that another one has been kept by. -/
def numberIn? (name other : Octets) : Option Nat :=
  if (name ++ ['.', '~']).isPrefixOf other && other.getLast? = some '~' then
    let ds := (other.drop (name.length + 2)).dropLast
    if ds.isEmpty || ds.head? = some '0' then none else Text.decimal? ds
  else none

/-- The name by which a file is kept, beside the names in its directory. -/
def name (b : Backup) (here : List Octets) (name : Octets) : Octets :=
  let last := (here.filterMap (numberIn? name)).foldl max 0
  if b.kind = .numbered || b.kind = .existing && 0 < last then
    name ++ ['.', '~'] ++ Text.decimal (last + 1) ++ ['~']
  else name ++ b.suffix

/-- A simple name is the old one with something behind it, whatever else
there is. -/
theorem name_simple (suffix : Octets) (here : List Octets) (n : Octets) :
    (Backup.mk .simple suffix).name here n = n ++ suffix := by
  simp [name]

/-- Keeps what stands at a place by another name, and gives the path of
that. -/
def keep (b : Backup) (path : Octets) (place : List String) :
    Work Octets := do
  let t := (← get).files
  let here := (t.children place.dropLast).map Octets.ofString
  let own := Octets.ofString (place.getLast?.getD "")
  let other := b.name here own
  Work.setFiles (t.move place (place.dropLast ++ [other.toText]))
  let bare := Text.dropRight (· = '/') path
  return bare.take (bare.length - (lastName bare).length) ++ other

end Backup

end Bench

end BitProbe
