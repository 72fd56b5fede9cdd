import BitProbe.Bench.Digest
import BitProbe.Bench.Options
import BitProbe.Bench.Programs.Passing
import BitProbe.Bench.Radix

/-!
Digests and sums of files.

* `Digesting.Kind`: a digest by its name, or a sum;
* `Digesting.Style`: how digests are written;
* `Digesting.Entry`: a line that has been written before, and
  `Digesting.entry?`, how it is read;
* `Digesting.check`: whether files are as they were;
* `md5sum`, `sha256sum`, `cksum`, `sum` and others: the programs.
-/

namespace BitProbe.Bench

namespace Digesting

/-- A digest of bytes. -/
structure Hash where
  /-- The word that options know it by, and the one in lines. -/
  word : String
  tag : String
  /-- How many bytes it has, or at most has. -/
  size : Nat
  isVariable : Bool := false
  digest : Nat → Array UInt8 → Array UInt8

/-- What is calculated from bytes. -/
inductive Kind where
  | turning
  | folding
  | cyclic
  | hash (h : Hash)

/-- The digest of sixteen bytes. -/
def md5 : Hash := ⟨"md5", "MD5", 16, false, fun _ => Digest.Md5.digest⟩

/-- The digests of twenty bytes and more. -/
def sha1 : Hash := ⟨"sha1", "SHA1", 20, false, fun _ => Digest.Sha1.digest⟩

@[inherit_doc sha1]
def sha224 : Hash :=
  ⟨"sha224", "SHA224", 28, false, fun _ => Digest.Sha2.sha224.digest⟩

@[inherit_doc sha1]
def sha256 : Hash :=
  ⟨"sha256", "SHA256", 32, false, fun _ => Digest.Sha2.sha256.digest⟩

@[inherit_doc sha1]
def sha384 : Hash :=
  ⟨"sha384", "SHA384", 48, false, fun _ => Digest.Sha2.sha384.digest⟩

@[inherit_doc sha1]
def sha512 : Hash :=
  ⟨"sha512", "SHA512", 64, false, fun _ => Digest.Sha2.sha512.digest⟩

/-- The digest of any number of bytes up to sixty-four. -/
def blake2b : Hash := ⟨"blake2b", "BLAKE2b", 64, true, Digest.Blake2.digest⟩

/-- Another digest of thirty-two bytes. -/
def sm3 : Hash := ⟨"sm3", "SM3", 32, false, fun _ => Digest.Sm3.digest⟩

/-- All digests. -/
def hashes : List Hash :=
  [md5, sha1, sha224, sha256, sha384, sha512, blake2b, sm3]

/-- The words of all kinds. -/
def kinds : List (String × Kind) :=
  [("bsd", .turning), ("sysv", .folding), ("crc", .cyclic)] ++
    hashes.map fun h => (h.word, .hash h)

/-- Bytes as hexadecimal digits. -/
def hexText (bytes : Array UInt8) : Octets :=
  bytes.toList.flatMap fun b => (Nat.toDigits 16 b.toNat).leftpad 2 '0'

/-- Bytes as digits of six bits. -/
def digits64 (bytes : Array UInt8) : Octets :=
  Radix.base64.encode (Octets.ofBytes bytes.toList)

/-- Octets as bytes. -/
def bytesOf (o : Octets) : Array UInt8 := o.toBytes.toArray

/-! ### Names -/

/-- Whether a name cannot stand in a line as it is. -/
def needsEscape (name : Octets) : Bool :=
  name.any (· ∈ ['\\', '\n', '\x0d'])

/-- A name as it stands in a line. -/
def escapedName (name : Octets) : Octets :=
  name.flatMap fun c =>
    if c = '\\' then ['\\', '\\']
    else if c = '\n' then ['\\', 'n']
    else if c = '\x0d' then ['\\', 'r']
    else [c]

/-- The name that stands in a line. -/
def unescapedName : Octets → Option Octets
  | [] => some []
  | '\\' :: 'n' :: cs => (unescapedName cs).map ('\n' :: ·)
  | '\\' :: 'r' :: cs => (unescapedName cs).map ('\x0d' :: ·)
  | '\\' :: '\\' :: cs => (unescapedName cs).map ('\\' :: ·)
  | '\\' :: _ => none
  | c :: cs => (unescapedName cs).map (c :: ·)

/-- The name that stands in a line is the one that was written. -/
theorem unescapedName_escapedName (name : Octets) :
    unescapedName (escapedName name) = some name := by
  unfold escapedName
  induction name with
  | nil => rfl
  | cons c cs ih =>
    simp only [List.flatMap_cons]
    by_cases h₁ : c = '\\'
    · subst h₁
      simpa [unescapedName] using ih
    · by_cases h₂ : c = '\n'
      · subst h₂
        simpa [unescapedName] using ih
      · by_cases h₃ : c = '\x0d'
        · subst h₃
          simpa [unescapedName] using ih
        · simp [h₁, h₂, h₃, unescapedName, ih]

/-! ### Writing -/

/-- How digests are written. -/
structure Style where
  isTagged : Bool
  isBinary : Bool := false
  isBase64 : Bool := false
  isRaw : Bool := false
  ending : Char := '\n'
  /-- How many bytes a digest has, if that can vary. -/
  size : Nat := 64

/-- How many bytes a digest has. -/
def Style.sizeOf (y : Style) (h : Hash) : Nat :=
  if h.isVariable then y.size else h.size

/-- The word before a digest in a line. -/
def tagOf (h : Hash) (size : Nat) : Octets :=
  h.tag.toList ++ if size < h.size then '-' :: Nat.toDigits 10 (8 * size)
    else []

/-- How many blocks of a size bytes fill. -/
def blocks (size bytes : Nat) : Octets :=
  Nat.toDigits 10 ((bytes + size - 1) / size)

/-- What is written for a file. -/
def line (k : Kind) (y : Style) (name : Octets) (isNamed : Bool)
    (o : Octets) : Octets :=
  let bytes := bytesOf o
  let named : Octets := (if isNamed then ' ' :: name else []) ++ [y.ending]
  let raw (count n : Nat) : Octets :=
    Octets.ofBytes (Digest.highFirst count n).toList
  match k with
  | .cyclic =>
    let n := (Digest.cyclic bytes).toNat
    if y.isRaw then raw 4 n
    else Nat.toDigits 10 n ++ ' ' :: Nat.toDigits 10 bytes.size ++ named
  | .turning =>
    let n := (Digest.turning bytes).toNat
    if y.isRaw then raw 2 n
    else (Nat.toDigits 10 n).leftpad 5 '0' ++ ' ' ::
      (blocks 1024 bytes.size).leftpad 5 ' ' ++ named
  | .folding =>
    let n := Digest.folding bytes
    if y.isRaw then raw 2 n
    else Nat.toDigits 10 n ++ ' ' :: blocks 512 bytes.size ++ named
  | .hash h =>
    let size := y.sizeOf h
    let d := h.digest size bytes
    if y.isRaw then Octets.ofBytes d.toList
    else
      let isEscaped := y.ending = '\n' && needsEscape name
      let shown := if isEscaped then escapedName name else name
      let digest := if y.isBase64 then digits64 d else hexText d
      (if isEscaped then ['\\'] else []) ++
        (if y.isTagged then tagOf h size ++ " (".toList ++ shown ++
            ") = ".toList ++ digest
          else digest ++ [' ', if y.isBinary then '*' else ' '] ++ shown) ++
        [y.ending]

/-! ### Checking -/

/-- A line that has been written before. -/
structure Entry where
  hash : Hash
  size : Nat
  digest : Octets
  name : Octets

/-- The digests that lines can have, whether lines without a word can be read,
and whether digests may have digits of six bits. -/
structure Expected where
  hashes : List Hash
  untagged : Bool
  base64 : Bool
  /-- How many bytes digests have at most. -/
  most : Nat := 64

/-- Whether a digest that has been written is one of so many bytes. -/
def Expected.isDigest (x : Expected) (size : Nat) (d : Octets) : Bool :=
  d.length = 2 * size && d.all CharClass.xdigit.has ||
    x.base64 && d.length = (size + 2) / 3 * 4 &&
      (let body := d.takeWhile fun c => (Radix.base64.value? c).isSome
       body.length = Radix.base64.needed size && (d.drop body.length).all (· = '='))

/-- A name, an equals sign and a digest after the word of a digest. -/
def Expected.tagged? (x : Expected) (h : Hash) (isEscaped : Bool) (o : Octets) :
    Option Entry :=
  let given? : Option (Nat × Octets) :=
    match h.isVariable, o with
    | true, '-' :: cs =>
      match leadingInteger? true cs with
      | some (n, rest) =>
        if 0 < n ∧ n ≤ 8 * x.most ∧ n % 8 = 0 then some (n.toNat / 8, rest)
        else none
      | none => none
    | _, o => some (h.size, o)
  given?.bind fun (size, o) =>
    let o := if o.head? = some ' ' then o.drop 1 else o
    match o with
    | '(' :: o =>
      let tail := o.reverse.takeWhile (· ≠ ')')
      if tail.length = o.length then none
      else
        let name := o.take (o.length - tail.length - 1)
        let isWhite (c : Char) : Bool := c = ' ' || c = '\t'
        match (tail.reverse.dropWhile isWhite) with
        | '=' :: d =>
          let d := d.dropWhile isWhite
          let name := if isEscaped then unescapedName name else some name
          if x.isDigest size d then name.map fun name => ⟨h, size, d, name⟩
          else none
        | _ => none
    | _ => none

/-- A digest and a name; whether names follow one blank or two, if that has
been seen before, comes along. -/
def Expected.plain? (x : Expected) (h : Hash) (isEscaped : Bool) (o : Octets)
    (single : Option Bool) : Option (Entry × Option Bool) :=
  let d := if h.isVariable then o.takeWhile CharClass.xdigit.has
    else o.takeWhile fun c => c ≠ ' ' && c ≠ '\t'
  let size := if h.isVariable then d.length / 2 else h.size
  let rest := o.drop d.length
  if !x.isDigest size d || size = 0 || h.size < size then none
  else
    match rest with
    | w :: rest =>
      if w ≠ ' ' && w ≠ '\t' then none
      else
        let entry (name : Octets) (single : Option Bool) :=
          (if isEscaped then unescapedName name else some name).map
            fun name => ((⟨h, size, d, name⟩ : Entry), single)
        let reversed := rest.length = 1 ||
          rest.head? ≠ some ' ' && rest.head? ≠ some '*'
        if rest.isEmpty then none
        else if reversed then
          if single = some false then none else entry rest (some true)
        else if single ≠ some true then entry (rest.drop 1) (some false)
        else entry rest single
    | [] => none

/-- The entry of a line. -/
def Expected.entry? (x : Expected) (l : Octets) (single : Option Bool) :
    Option (Entry × Option Bool) :=
  let o := l.dropWhile fun c => c = ' ' || c = '\t'
  let isEscaped := o.head? = some '\\'
  let o := if isEscaped then o.drop 1 else o
  let named := x.hashes.filter fun h => h.tag.toList.isPrefixOf o &&
    ((o.drop h.tag.length).head?.any fun c => c = ' ' || c = '-' || c = '(')
  match named with
  | h :: _ =>
    (x.tagged? h isEscaped (o.drop h.tag.length)).map (·, single)
  | [] =>
    match x.untagged, x.hashes with
    | true, [h] => x.plain? h isEscaped o single
    | _, _ => none

/-- What is said while files are checked. -/
structure Voice where
  /-- Whether nothing is said, no more than what is wrong, or more about
  lines. -/
  isSilent : Bool := false
  isQuiet : Bool := false
  warns : Bool := false
  ignoresMissing : Bool := false
  isStrict : Bool := false

/-- What has been found while files were checked. -/
structure Findings where
  misformed : Nat := 0
  unreadable : Nat := 0
  mismatched : Nat := 0
  hasEntry : Bool := false
  hasMatch : Bool := false
  single : Option Bool := none

/-- A warning about a number of things. -/
def warning (n : Nat) (one many : String) : Work Unit := do
  if n ≠ 0 then
    Work.complain 1 ("WARNING: ".toList ++ Nat.toDigits 10 n ++
      (if n = 1 then one else many).toList)

/-- Whether a digest is the one that has been written. -/
def Entry.agrees (e : Entry) (bytes : Array UInt8) : Bool :=
  let d := e.hash.digest e.size bytes
  if e.digest.length = 2 * e.size then
    e.digest.map Char.toLower = hexText d
  else e.digest = digits64 d

/-- Checks a file against a line. -/
def checkEntry (v : Voice) (e : Entry) (f : Findings) : Work Findings := do
  let f := { f with hasEntry := true }
  let shown : Octets := if needsEscape e.name then
      '\\' :: escapedName e.name else e.name
  let tell (word : String) : Work Unit :=
    Work.say (shown ++ ": ".toList ++ word.toList ++ ['\n'])
  match ← Work.source e.name with
  | .error r =>
    if v.ignoresMissing && r = .notFound then return f
    else
      Work.refuse e.name r
      if !v.isSilent then tell "FAILED open or read"
      return { f with unreadable := f.unreadable + 1 }
  | .ok s =>
    if e.agrees (bytesOf s.held) then
      if !v.isSilent && !v.isQuiet then tell "OK"
      return { f with hasMatch := true }
    else
      if !v.isSilent then tell "FAILED"
      return { f with mismatched := f.mismatched + 1 }

/-- Checks files against the lines of a file. -/
def check (x : Expected) (tag : String) (v : Voice) (p : Octets) :
    Work Unit := do
  let before := (← get).status
  let shown := if p = ['-'] then "standard input".toList else p
  match ← Work.source p with
  | .error r =>
    if r = .isADirectory then
      Work.complain 1 (bareName shown ++ ": read error".toList)
    else Work.refuse p r
  | .ok s =>
    let step (f : Findings) (l : Octets × Nat) : Work Findings := do
      let o := Octets.withoutEnd '\x0d' (Octets.withoutEnd '\n' l.1)
      if o.head? = some '#' || o.isEmpty then return f
      else
        match (x.entry? o f.single).filter fun (e, _) =>
          !(p = ['-'] && e.name = ['-']) with
        | some (e, single) => checkEntry v e { f with single }
        | none =>
          if v.warns then
            Work.complain 1 (bareName shown ++ ": ".toList ++
              Nat.toDigits 10 l.2 ++ ": improperly formatted ".toList ++
              tag.toList ++ " checksum line".toList)
          return { f with misformed := f.misformed + 1 }
    let f ← ((Octets.lines s.held).zipIdx 1).foldlM step {}
    if !f.hasEntry then
      Work.complain 1 (bareName shown ++
        ": no properly formatted checksum lines found".toList)
    else if !v.isSilent then
      warning f.misformed " line is improperly formatted"
        " lines are improperly formatted"
      warning f.unreadable " listed file could not be read"
        " listed files could not be read"
      warning f.mismatched " computed checksum did NOT match"
        " computed checksums did NOT match"
      if v.ignoresMissing && !f.hasMatch then
        Work.complain 1 (bareName shown ++ ": no file was verified".toList)
    let fine := f.hasEntry && f.hasMatch && f.mismatched = 0 &&
      f.unreadable = 0 && (!v.isStrict || f.misformed = 0)
    Work.setStatus (if fine then before else 1)

/-! ### The programs -/

/-- The options of checking. -/
def checkSwitches : List Switch :=
  [.flag 'c' "check", .flag 'w' "warn", .long "status" .nothing,
   .long "quiet" .nothing, .long "strict" .nothing,
   .long "ignore-missing" .nothing, .flag 'z' "zero"]

/-- What is to be said while files are checked, by options. -/
def Voice.ofOptions (os : List Opt) : Voice :=
  let last := lastOf os ["status", "quiet", "warn"]
  { isSilent := last = some "status"
    isQuiet := last = some "quiet"
    warns := last = some "warn"
    ignoresMissing := hasOpt os "ignore-missing"
    isStrict := hasOpt os "strict" }

/-- What is wrong with options that do not go together, if something is. -/
def conflict? (isGeneral isTagged : Bool) (binary : Option Bool)
    (os : List Opt) : Option String :=
  let checks := hasOpt os "check"
  let only (key : String) : Option String :=
    if (key = "ignore-missing" || key = "strict" ||
        lastOf os ["status", "quiet", "warn"] = some key) && hasOpt os key &&
        !checks then
      some ("the --" ++ key ++
        " option is meaningful only when verifying checksums")
    else none
  if isTagged && binary = some false then
    some (if isGeneral then "--text mode is only supported with --untagged"
      else "--tag does not support --text mode")
  else if hasOpt os "zero" && checks then
    some "the --zero option is not supported when verifying checksums"
  else if !isGeneral && isTagged && checks then
    some "the --tag option is meaningless when verifying checksums"
  else if binary.isSome && checks then
    some ("the --binary and --text options are meaningless when " ++
      "verifying checksums")
  else
    ["ignore-missing", "status", "warn", "quiet", "strict"].findSome? only

/-- Writes what there is for files. -/
def writeAll (k : Kind) (y : Style) (paths : List Octets) : Work Unit := do
  Work.eachSource paths Work.refuse fun p s =>
    if s.isEndless then Work.hang
    else Work.say (line k y p (!paths.isEmpty) s.held)
  Work.closeInput "closing standard input" paths

/-- How many bytes options say a digest has, or what is wrong with that. -/
def lengthOf (os : List Opt) : Except (List Octets) Nat :=
  match optValue? os "length" with
  | none => .ok 64
  | some v =>
    match (Limits.upward "invalid length" 0).read v with
    | .error m => .error [m]
    | .ok n =>
      let wrong (m : Octets) : Except (List Octets) Nat :=
        .error ["invalid length: ".toList ++ quoted v, m]
      if 512 < n then
        wrong ("maximum digest length for ".toList ++ quoted "BLAKE2b".toList ++
          " is 512 bits".toList)
      else if n % 8 ≠ 0 then wrong "length is not a multiple of 8".toList
      else .ok (if n = 0 then 64 else n.toNat / 8)

/-- The last of the options for text and for octets, which some other option
may imply. -/
def binaryOf (os : List Opt) : Option Bool :=
  match lastOf os ["binary", "text", "tag"] with
  | some "text" => some false
  | some _ => some true
  | none => none

/-- A program for one digest. -/
def hashProgram (h : Hash) : Program := fun c =>
  let switches := checkSwitches ++ [.flag 'b' "binary", .flag 't' "text",
      .long "tag" .nothing] ++
    (if h.isVariable then [.valued 'l' "length"] else [])
  c.asked switches true (fun m => Work.misuse 1 m.message) ()
    (fun _ o =>
      if o.key = "length" then
        match (Limits.upward "invalid length" 0).read (o.value.getD []) with
        | .ok _ => return some ()
        | .error m => do
          Work.complain 1 m
          return none
      else return some ()) fun _ os paths =>
    let isTagged := hasOpt os "tag"
    match lengthOf os with
    | .error ms => ms.forM (Work.complain 1)
    | .ok size =>
      match conflict? false isTagged (binaryOf os) os with
      | some m => Work.misuse 1 m.toList
      | none => do
        if hasOpt os "check" then
          let x : Expected :=
            { hashes := [h], untagged := true, base64 := false, most := size }
          (if paths.isEmpty then [['-']] else paths).forM
            (check x h.tag (Voice.ofOptions os))
        else
          writeAll (.hash h)
            { isTagged, isBinary := binaryOf os = some true, size
              ending := itemEnd os } paths

end Digesting

open Digesting

/-- The programs for one digest each. -/
def md5sum : Program := hashProgram md5

@[inherit_doc md5sum]
def sha1sum : Program := hashProgram sha1

@[inherit_doc md5sum]
def sha224sum : Program := hashProgram sha224

@[inherit_doc md5sum]
def sha256sum : Program := hashProgram sha256

@[inherit_doc md5sum]
def sha384sum : Program := hashProgram sha384

@[inherit_doc md5sum]
def sha512sum : Program := hashProgram sha512

@[inherit_doc md5sum]
def b2sum : Program := hashProgram blake2b

/-- Short sums of files. -/
def sum : Program := fun c =>
  c.given [.flag 'r' "", .flag 's' "sysv"] true 1 fun os paths =>
    writeAll (if lastOf os ["r", "sysv"] = some "sysv" then .folding
      else .turning) { isTagged := false } paths

/-- Sums and digests of files of any kind. -/
def cksum : Program := fun c =>
  let algorithm : Switch :=
    { letter := some 'a', word := "algorithm", takes := .value
      choices := kinds.map fun k => [k.1], isExact := true }
  let switches := checkSwitches ++ [algorithm, .flag 'b' "binary",
    .flag 't' "text", .long "tag" .nothing, .long "untagged" .nothing,
    .long "base64" .nothing, .long "raw" .nothing, .valued 'l' "length",
    .long "debug" .nothing]
  c.given switches true 1 fun os paths => do
    let word := optValue? os "algorithm"
    let k := (word.bind fun w => kinds.lookup (String.ofList w)).getD .cyclic
    let isVariable := match k with
      | .hash h => h.isVariable
      | _ => false
    let isHash := match k with
      | .hash _ => true
      | _ => false
    let isTagged := lastOf os ["tag", "untagged"] ≠ some "untagged"
    let binary := match lastOf os ["binary", "text", "tag", "untagged"] with
      | some "text" => some false
      | some "untagged" => (lastOf (os.filter (·.key ≠ "untagged"))
          ["binary", "text"]).map (· = "binary")
      | some _ => some true
      | none => none
    match lengthOf os with
    | .error ms => ms.forM (Work.complain 1)
    | .ok size =>
      if hasOpt os "length" && optValue? os "length" ≠ some ['0'] && !isVariable then
        Work.complain 1
          "--length is only supported with --algorithm=blake2b".toList
      else if !isHash && hasOpt os "check" && word.isSome then
        Work.complain 1
          "--check is not supported with --algorithm=\x7bbsd,sysv,crc\x7d".toList
      else if hasOpt os "base64" && hasOpt os "raw" then
        Work.misuse 1 "--base64 and --raw are mutually exclusive".toList
      else
        match conflict? true isTagged binary os with
        | some m => Work.misuse 1 m.toList
        | none =>
          if 1 < paths.length && hasOpt os "raw" then
            Work.complain 1
              "the --raw option is not supported with multiple files".toList
          else if hasOpt os "check" then
            let x : Expected := match k with
              | .hash h =>
                { hashes := [h], untagged := true, base64 := true, most := size }
              | _ => { hashes, untagged := false, base64 := true }
            let tag := match k with
              | .hash h => h.tag
              | _ => "CRC"
            (if paths.isEmpty then [['-']] else paths).forM
              (check x tag (Voice.ofOptions os))
          else
            writeAll k
              { isTagged, isBinary := binary = some true
                isBase64 := hasOpt os "base64", isRaw := hasOpt os "raw"
                ending := itemEnd os, size } paths

end BitProbe.Bench
