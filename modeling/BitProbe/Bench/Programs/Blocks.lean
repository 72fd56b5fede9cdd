import BitProbe.Bench.Numerals
import BitProbe.Bench.Programs.Passing

/-!
Copying blocks.

Octets are read and written in blocks, of which some may be skipped, and are
changed on the way.

* `Blocks.Task`: what operands ask for;
* `Blocks.converted`, with `Blocks.swapped_length`: how octets are changed;
* `Blocks.encode`, `Blocks.decode`: octets in another code;
* `Blocks.placed`: octets written into a file;
* `dd`: the program.
-/

namespace BitProbe.Bench

namespace Blocks

/-- A number, or a product of numbers; and whether it counts octets. -/
def number? (o : Octets) : Option (Nat × Bool) :=
  let one (p : Octets) : Option Nat :=
    if p.getLast? = some 'c' && 1 < p.length then Text.decimal? p.dropLast
    else if p.getLast? = some 'w' && 1 < p.length then
      (Text.decimal? p.dropLast).map (2 * ·)
    else if p.head?.any Char.isDigit then sized? p else none
  let counts := o.getLast? = some 'B' &&
    (o.dropLast.getLast?).any Char.isDigit
  let parts := (if counts then o.dropLast else o).splitOn 'x'
  ((parts.mapM one).map fun ns => ns.foldl (· * ·) 1).map (·, counts)

/-- What operands ask for. -/
structure Task where
  source : Option Octets := none
  target : Option Octets := none
  /-- The size of the blocks that are read and written alike. -/
  size : Option Nat := none
  readSize : Nat := 512
  writeSize : Nat := 512
  recordSize : Nat := 0
  count : Option (Nat × Bool) := none
  skip : Nat × Bool := (0, false)
  seek : Nat × Bool := (0, false)
  conversions : List String := []
  status : String := ""

/-- The conversions that are known. -/
def knownConversions : List String :=
  ["ascii", "ebcdic", "ibm", "block", "unblock", "lcase", "ucase", "sparse",
   "swab", "sync", "excl", "nocreat", "notrunc", "noerror", "fdatasync",
   "fsync"]

/-- The flags of files that are known. -/
def knownFlags : List String :=
  ["append", "direct", "directory", "dsync", "sync", "fullblock", "nonblock",
   "noatime", "nocache", "noctty", "nofollow", "count_bytes", "skip_bytes",
   "seek_bytes"]

/-- What is wrong with operands, and whether that is about how to use the
program. -/
abbrev Problem := Octets × Bool

/-- A task with what one more operand asks for. -/
def Task.add (k : Task) (operand : Octets) : Except Problem Task :=
  let name := String.ofList (operand.takeWhile (· ≠ '='))
  let v := operand.drop (name.length + 1)
  let items := (v.splitOn ',').map String.ofList
  let number (positive : Bool) (f : Nat × Bool → Task) :
      Except Problem Task :=
    match number? v with
    | some n =>
      if positive && n.1 = 0 then
        .error ("invalid number: ".toList ++ named v, false)
      else .ok (f n)
    | none => .error ("invalid number: ".toList ++ named v, false)
  let unknown := Except.error
    ("unrecognized operand ".toList ++ named operand, true)
  if !operand.contains '=' then unknown
  else
    match name with
    | "if" => .ok { k with source := some v }
    | "of" => .ok { k with target := some v }
    | "bs" => number true fun n => { k with size := some n.1 }
    | "ibs" => number true fun n => { k with readSize := n.1 }
    | "obs" => number true fun n => { k with writeSize := n.1 }
    | "cbs" => number true fun n => { k with recordSize := n.1 }
    | "count" => number false fun n => { k with count := some n }
    | "skip" => number false fun n => { k with skip := n }
    | "iseek" => number false fun n => { k with skip := n }
    | "seek" => number false fun n => { k with seek := n }
    | "oseek" => number false fun n => { k with seek := n }
    | "conv" =>
      match items.find? (· ∉ knownConversions) with
      | some i =>
        .error ("invalid conversion: ".toList ++ quoted i.toList, true)
      | none => .ok { k with conversions := k.conversions ++ items }
    | "iflag" =>
      match items.find? (· ∉ knownFlags) with
      | some i =>
        .error ("invalid input flag: ".toList ++ quoted i.toList, true)
      | none => .ok { k with conversions := k.conversions ++ items }
    | "oflag" =>
      match items.find? (· ∉ knownFlags) with
      | some i =>
        .error ("invalid output flag: ".toList ++ quoted i.toList, true)
      | none => .ok { k with conversions := k.conversions ++ items.map fun i =>
          if i = "append" then "oappend" else i }
    | "status" =>
      if String.ofList v ∈ ["none", "noxfer", "progress"] then
        .ok { k with status := String.ofList v }
      else .error ("invalid status level: ".toList ++ quoted v, true)
    | _ => unknown

/-- Whether a conversion is asked for. -/
def Task.has (k : Task) (name : String) : Bool := k.conversions.contains name

/-- Neighbouring octets swapped, two by two. -/
def swapped : Octets → Octets
  | a :: b :: cs => b :: a :: swapped cs
  | cs => cs

/-- Swapping loses nothing. -/
theorem swapped_length (o : Octets) : (swapped o).length = o.length := by
  match o with
  | [] => rfl
  | [_] => rfl
  | a :: b :: cs => simp [swapped, swapped_length cs]

/-- Octets in blocks of a size, the last of which may be shorter. -/
def cutInto (n : Nat) : Nat → Octets → List Octets → List Octets
  | 0, _, done => done.reverse
  | fuel + 1, o, done =>
    if o.isEmpty then done.reverse
    else cutInto n fuel (o.drop n) (o.take n :: done)

/-! ### Codes -/

/-- The numbers of the octets from zero on in the other code, each in two
digits of base sixteen. -/
def codeDigits : String :=
  "00010203372d2e2f1605250b0c0d0e0f101112133c3d322618193f271c1d1e1f" ++
  "405a7f7b5b6c507d4d5d5c4e6b604b61f0f1f2f3f4f5f6f7f8f97a5e4c7e6e6f" ++
  "7cc1c2c3c4c5c6c7c8c9d1d2d3d4d5d6d7d8d9e2e3e4e5e6e7e8e9ade0bd9a6d" ++
  "79818283848586878889919293949596979899a2a3a4a5a6a7a8a9c04fd05f07" ++
  "202122232415061728292a2b2c090a1b30311a333435360838393a3b04143ee1" ++
  "4142434445464748495152535455565758596263646566676869707172737475" ++
  "767778808a8b8c8d8e8f906a9b9c9d9e9fa0aaabac4aaeafb0b1b2b3b4b5b6b7" ++
  "b8b9babbbca1bebfcacbcccdcecfdadbdcdddedfeaebecedeeeffafbfcfdfeff"

/-- The octets that digits of base sixteen stand for, two by two. -/
def pairs : Octets → Octets
  | a :: b :: cs => Char.ofNat (ofDigits 16 [a, b]) :: pairs cs
  | _ => []

/-- The octets from zero on in the other code. -/
def codeTable : Array Char := (pairs codeDigits.toList).toArray

/-- The octets from zero on in a variety of the other code. -/
def variantTable : Array Char :=
  [(94, 95), (126, 161), (203, 154), (213, 173), (229, 189)].foldl
    (fun a p => a.set! p.1 (Char.ofNat p.2)) codeTable

/-- An octet in the code of a table. -/
def encode (table : Array Char) (c : Char) : Char := table[c.toNat]?.getD c

/-- The octet that is another one in the code of a table. -/
def decode (table : Array Char) (c : Char) : Char :=
  Char.ofNat ((table.findIdx? (· = c)).getD c.toNat)

/-- Whether records have a size, which a code asks for as much as a
conversion to records. -/
def Task.blocks (k : Task) : Bool :=
  k.recordSize ≠ 0 && (k.has "block" || k.has "ebcdic" || k.has "ibm")

/-- Whether lines are made of records. -/
def Task.unblocks (k : Task) : Bool :=
  k.recordSize ≠ 0 && (k.has "unblock" || k.has "ascii")

/-- What is wrong with conversions that are asked for together. -/
def Task.conflict? (k : Task) : Option Octets :=
  let codes := ["ascii", "ebcdic", "ibm"].filter k.has
  let rules : List (Bool × String) :=
    [(1 < codes.length,
      "cannot combine any two of \x7bascii,ebcdic,ibm\x7d"),
     (k.blocks && k.unblocks, "cannot combine block and unblock"),
     (k.has "lcase" && k.has "ucase", "cannot combine lcase and ucase"),
     (k.has "excl" && k.has "nocreat", "cannot combine excl and nocreat")]
  (rules.find? (·.1)).map (·.2.toList)

/-- Blocks that have been read as one text, changed as a task asks. -/
def converted (k : Task) (readSize : Nat) (blocks : List Octets) : Octets :=
  let filler := if k.blocks || k.unblocks then ' ' else Char.ofNat 0
  let o := (blocks.map fun b =>
    if k.has "sync" then b ++ List.replicate (readSize - b.length) filler
    else b).flatten
  let o := if k.has "swab" then swapped o else o
  let o := if k.has "ascii" then o.map (decode codeTable) else o
  let o := if k.has "ucase" then o.map Char.toUpper
    else if k.has "lcase" then o.map Char.toLower else o
  let o :=
    if k.blocks then
      (Octets.lines o).flatMap fun l =>
        let l := Octets.withoutEnd '\n' l
        (l ++ List.replicate (k.recordSize - l.length) ' ').take k.recordSize
    else if k.unblocks then
      (cutInto k.recordSize (o.length + 1) o []).flatMap fun r =>
        Text.dropRight (· = ' ') r ++ ['\n']
    else o
  if k.has "ebcdic" then o.map (encode codeTable)
  else if k.has "ibm" then o.map (encode variantTable)
  else o

/-- How many lines are too long for a record. -/
def Task.cutLines (k : Task) (o : Octets) : Nat :=
  if k.blocks then
    ((Octets.lines o).filter fun l =>
      k.recordSize < (Octets.withoutEnd '\n' l).length).length
  else 0

/-! ### Files -/

/-- The contents of a file after octets have been written into it from an
offset on. What stood there from the offset on is lost unless it is to be
kept. -/
def placed (keep : Bool) (old : Octets) (offset : Nat) (o : Octets) :
    Octets :=
  let base := if keep && o.isEmpty then old
    else old.take offset ++
      List.replicate (offset - old.length) (Char.ofNat 0) ++ o
  if keep then base ++ old.drop (offset + o.length) else base

/-- How many blocks there are: whole ones, and others. -/
def records (whole others : Nat) (word : String) : Octets :=
  Text.decimal whole ++ '+' :: Text.decimal others ++ ' ' ::
    (word ++ "\n").toList

/-- A file in a message. -/
def shownFile (path : Option Octets) (usual : String) : Octets :=
  path.getD usual.toList

/-- How many octets a number of blocks or octets is. -/
def Task.bytes (k : Task) (n : Nat × Bool) (flag : String) (size : Nat) :
    Nat :=
  if n.2 || k.has flag then n.1 else n.1 * size

/-- The size of the blocks that are read. -/
def Task.readUnit (k : Task) : Nat := k.size.getD k.readSize

/-- The size of the blocks that are written. -/
def Task.writeUnit (k : Task) : Nat := k.size.getD k.writeSize

/-- The name of the file that is read. -/
def Task.input (k : Task) : Octets := shownFile k.source "standard input"

/-- The name of the file that is written. -/
def Task.output (k : Task) : Octets := shownFile k.target "standard output"

/-- How many octets of the file that is written are left out. -/
def Task.offset (k : Task) : Nat := k.bytes k.seek "seek_bytes" k.writeUnit

/-- Whether something that is there is a file with contents. -/
def isPlain (t : FileTree) (path : Octets) : Bool :=
  (t.lookup path.toText).toOption.any fun n => match n with
    | .file _ => true
    | _ => false

/-- What is left of a file of which only the octets that are left out are
kept. -/
def Task.cut (k : Task) (path old : Octets) : Work (Except FileError Octets) := do
  let kept := if k.has "notrunc" then old
    else (old.take k.offset).rightpad k.offset (Char.ofNat 0)
  return (← Work.write path kept).map fun _ => kept

/-- What has been written so far of the file that is written, which is then
there. -/
def Task.openTarget (k : Task) : Work (Except FileError Octets) := do
  let t := (← get).files
  match k.target with
  | none => return .ok []
  | some p =>
    match t.lookup p.toText with
    | .error .notFound =>
      if k.has "nocreat" then return .error .notFound
      else k.cut p []
    | .error r => return .error r
    | .ok n =>
      if k.has "excl" then return .error .alreadyThere
      else
        match n with
        | .directory => return .error .isADirectory
        | .file bytes =>
          let old := Octets.ofBytes bytes
          if k.has "notrunc" then return .ok old else k.cut p old
        | _ => return .ok []

/-- Says how many records have been read and written, and how many octets
that are, unless nothing is to be said. -/
def Task.sayRecords (k : Task) (ins outs : Nat × Nat) (cut octets : Nat) :
    Work Unit := do
  if k.status ≠ "none" then
    Work.sayOn 2 (records ins.1 ins.2 "records in" ++
      records outs.1 outs.2 "records out")
    if 0 < cut then
      Work.sayOn 2 (Text.decimal cut ++ (if cut = 1 then " truncated record\n"
        else " truncated records\n").toList)
    if k.status ≠ "noxfer" then
      Work.sayOn 2 (Text.decimal octets ++
        (if octets = 1 then " byte" else " bytes").toList ++
        " copied, 0.0001 s, 1.0 MB/s\n".toList)

/-- Says that what has been written cannot be kept safe, if that is wanted and
not possible. -/
def Task.settle (k : Task) (inFile : Bool) : Work Unit := do
  let t := (← get).files
  let plain := match k.target with
    | some p => isPlain t p
    | none => inFile
  if (k.has "fsync" || k.has "fdatasync") && !plain then
    Work.complain 1 ("fsync failed for ".toList ++ named k.output ++
      ": Invalid argument".toList)

/-- Says what cannot be read. -/
def Task.refuse (k : Task) (c : Call) (r : FileError) : Work Unit := do
  let closed := k.source.isNone && r = .noWay
  if k.count.any (·.1 = 0) && !closed then
    k.settle c.outputPlace.isSome
    k.sayRecords (0, 0) (0, 0) 0 0
  else
    Work.complain 1 ("error reading ".toList ++ named k.input ++
      ": ".toList ++ r.reason.toList)
    k.settle c.outputPlace.isSome
    if closed then
      Work.complain 1 ("closing input file ".toList ++ named k.input ++
        ": ".toList ++ r.reason.toList)
    else k.sayRecords (0, 0) (0, 0) 0 0

/-- Says that nothing can be left out of a file that has no places, if
something is to be. -/
def Task.misplaced (k : Task) (c : Call) : Work Bool := do
  let wrong := 0 < k.offset && k.target.isNone && c.outputPlace.isNone
  if wrong then
    Work.complain 1 (named k.output ++ ": cannot seek: Illegal seek".toList)
    k.sayRecords (0, 0) (0, 0) 0 0
  return wrong

/-- Writes what has been converted, after what was in the file before. -/
def Task.write (k : Task) (inFile : Bool) (old out : Octets) :
    Work (Except FileError Unit) := do
  match k.target with
  | none =>
    Work.say ((if inFile && !out.isEmpty then
      List.replicate k.offset (Char.ofNat 0) else []) ++ out)
    return .ok ()
  | some p =>
    let text := if !isPlain (← get).files p then out
      else if k.has "oappend" then old ++ out
      else placed (k.has "notrunc") old k.offset out
    Work.write p text

/-- Copies from a stream to the file that is written. -/
def Task.copy (k : Task) (c : Call) (s : Stream) (old : Octets) :
    Work Unit := do
  let skip := k.bytes k.skip "skip_bytes" k.readUnit
  let sameFile := k.source.any fun p => k.target.any fun q =>
    isPlain c.files p && (c.files.locate p.toText).toOption =
      (c.files.locate q.toText).toOption
  let s := if sameFile && !k.has "notrunc" then
      { s with held := s.held.take k.offset } else s
  let wanted := k.count.map fun n => k.bytes n "count_bytes" k.readUnit
  let later := (s.split skip).2
  if wanted.isNone && later.isEndless then Work.hang
  let n := wanted.getD later.held.length
  let o := (later.split n).1
  if k.source.isNone then
    Work.leave (c.input.split (min c.input.held.length skip + n)).2
  if !s.isEndless && s.held.length < skip && k.status ≠ "none" then
    Work.complain 0 (bareName k.input ++
      ": cannot skip to specified offset".toList)
  if ← k.misplaced c then return
  let blocks := cutInto k.readUnit (o.length + 1) o []
  let out := converted k k.readUnit blocks
  let whole := (blocks.filter (·.length = k.readUnit)).length
  let written := cutInto k.writeUnit (out.length + 1) out []
  let full := (written.filter (·.length = k.writeUnit)).length
  match ← k.write c.outputPlace.isSome old out with
  | .error r =>
    Work.complain 1 ((if r = .noSpace then "error writing "
      else "failed to open ").toList ++ named k.output ++ ": ".toList ++
      r.reason.toList)
  | .ok () => k.settle c.outputPlace.isSome
  k.sayRecords (whole, blocks.length - whole) (full, written.length - full)
    (k.cutLines o) out.length

end Blocks

open Blocks in
/-- Copies blocks. -/
def dd : Program := fun c =>
  c.given [] true 1 fun _ operands => do
    match operands.foldlM Task.add {} with
    | .error (m, isUse) => if isUse then Work.misuse 1 m else Work.complain 1 m
    | .ok k =>
      let failed (path : Octets) (r : FileError) : Work Unit :=
        Work.complain 1 ("failed to open ".toList ++ named path ++
          ": ".toList ++ r.reason.toList)
      match k.conflict? with
      | some m => Work.complain 1 m
      | none =>
        let source ← match k.source with
          | some p => Work.fileAt p
          | none => Work.takeInput
        let opened := match source with
          | .ok _ => true
          | .error r => k.source.isNone || r = .isADirectory
        if !opened then
          match source with
          | .ok _ => return
          | .error r => failed k.input r
        else
          match ← k.openTarget, source with
          | .error r, _ => failed k.output r
          | .ok _, .error r => if !(← k.misplaced c) then k.refuse c r
          | .ok old, .ok s => k.copy c s old

end BitProbe.Bench
