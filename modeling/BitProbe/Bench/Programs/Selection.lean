import BitProbe.Bench.Numerals
import BitProbe.Bench.Programs.Passing

/-!
Parts of every line.

A list of numbers and ranges says which octets or fields of a line are
wanted.

* `Cut.Range`, `Cut.rangesOf`: such lists, and what is wrong with them;
* `Cut.chosen`, with `Cut.chosen_everything`: what a list chooses;
* `Cut.octets`, `Cut.fields`: what is wanted of a line;
* `cut`: the program.
-/

namespace BitProbe.Bench

namespace Cut

/-- The places from one to another, or to the end. The first place is one. -/
structure Range where
  low : Nat
  high : Option Nat

namespace Range

/-- Whether a place is in a range. -/
def has (r : Range) (n : Nat) : Bool :=
  r.low ≤ n && r.high.all (n ≤ ·)

end Range

/-- What is wrong with a list of fields or of octets. -/
structure Wrong where
  fields : Bool

namespace Wrong

/-- The number zero. -/
def zero (w : Wrong) : Octets :=
  (if w.fields then "fields are numbered from 1"
    else "byte/character positions are numbered from 1").toList

/-- A second dash. -/
def dashes (w : Wrong) : Octets :=
  (if w.fields then "invalid field range"
    else "invalid byte or character range").toList

/-- A number that is too large. -/
def large (w : Wrong) (ds : Octets) : Octets :=
  (if w.fields then "field number " else "byte/character offset ").toList ++
    quoted ds ++ " is too large".toList

/-- Something that is no number. -/
def other (w : Wrong) (rest : Octets) : Octets :=
  (if w.fields then "invalid field value "
    else "invalid byte/character position ").toList ++ quoted rest

end Wrong

/-- Numbers from this one on are too large. -/
def ceiling : Nat := 2 ^ 64 - 1

/-- The range of one item of a list: nothing, or a dash, stands between its
two numbers, either of which may be missing. -/
def rangeOf (w : Wrong) (low : Option Nat) (dash : Bool)
    (high : Option Nat) : Except Octets Range :=
  match dash, low, high with
  | false, some 0, _ => .error w.zero
  | false, none, _ => .error w.zero
  | false, some n, _ => .ok ⟨n, some n⟩
  | true, some 0, _ => .error w.zero
  | true, none, none => .error "invalid range with no endpoint: -".toList
  | true, low, none => .ok ⟨low.getD 1, none⟩
  | true, low, some h =>
    if h < low.getD 1 then .error "invalid decreasing range".toList
    else .ok ⟨low.getD 1, some h⟩

/-- The ranges of a list, after what has been read of an item: its first
number, a dash and its second number. -/
def rangesFrom (w : Wrong) : Nat → Octets → Option Nat → Bool → Option Nat →
    Except Octets (List Range)
  | 0, _, _, _, _ => .ok []
  | fuel + 1, cs, low, dash, high =>
    match cs with
    | [] => do return [← rangeOf w low dash high]
    | c :: rest =>
      if c = '-' then
        if dash then .error w.dashes
        else if low = some 0 then .error w.zero
        else rangesFrom w fuel rest low true high
      else if c = ',' || c = ' ' || c = '\t' then do
        let r ← rangeOf w low dash high
        return r :: (← rangesFrom w fuel rest none false none)
      else if c.isDigit then
        let ds := cs.takeWhile Char.isDigit
        let n := ofDigits 10 ds
        if ceiling ≤ n then .error (w.large ds)
        else if dash then
          rangesFrom w fuel (cs.drop ds.length) low dash (some n)
        else rangesFrom w fuel (cs.drop ds.length) (some n) dash high
      else .error (w.other cs)

/-- The ranges of a list in order, those that overlap as one. -/
def merged (rs : List Range) : List Range :=
  let sorted := rs.mergeSort fun a b => a.low ≤ b.low
  (sorted.foldl (fun (acc : List Range) r =>
    match acc with
    | p :: ps =>
      if p.high.all (r.low ≤ ·) then
        ⟨p.low, p.high.bind fun a => r.high.map fun b => max a b⟩ :: ps
      else r :: acc
    | [] => [r]) []).reverse

/-- The ranges of what other ranges leave out, from a place on. -/
def complement : List Range → Nat → List Range
  | [], n => [⟨n, none⟩]
  | r :: rs, n =>
    let gap := if n < r.low then [⟨n, some (r.low - 1)⟩] else []
    match r.high with
    | some h => gap ++ complement rs (h + 1)
    | none => gap

/-- The ranges that a list names. -/
def rangesOf (w : Wrong) (o : Octets) : Except Octets (List Range) := do
  return merged (← rangesFrom w (o.length + 1) o none false none)

/-- The items of a list at the places in ranges, and for each whether a range
starts there. -/
def chosen {α : Type} (rs : List Range) (xs : List α) : List (α × Bool) :=
  (xs.zipIdx 1).filterMap fun x =>
    if rs.any (·.has x.2) then some (x.1, rs.any (·.low = x.2)) else none

/-- The range from the first place on chooses everything. -/
theorem chosen_everything {α : Type} (xs : List α) :
    (chosen [⟨1, none⟩] xs).map (·.1) = xs := by
  have h : ∀ (n : Nat) (xs : List α), 1 ≤ n →
      ((xs.zipIdx n).filterMap fun x =>
        if [Range.mk 1 none].any (·.has x.2)
        then some (x.1, [Range.mk 1 none].any (·.low = x.2)) else none).map
          (·.1) = xs := by
    intro n xs hn
    induction xs generalizing n with
    | nil => rfl
    | cons x xs ih =>
      have := ih (n + 1) (by omega)
      simp only [List.zipIdx_cons, List.filterMap_cons]
      rw [if_pos (by simp [Range.has, hn])]
      simpa using this
  exact h 1 xs (Nat.le_refl 1)

/-- What is wanted of the octets of a line; between ranges stands what is to
stand there. -/
def octets (rs : List Range) (between : Octets) (line : Octets) : Octets :=
  (chosen rs line).zipIdx.flatMap fun x =>
    (if x.1.2 && 0 < x.2 then between else []) ++ [x.1.1]

/-- What is wanted of the fields of a line, or nothing at all for a line that
is left out. -/
def fields (rs : List Range) (sep : Char) (between : Octets) (strict : Bool)
    (line : Octets) : Option Octets :=
  if line.contains sep then
    some (between.intercalate ((chosen rs (line.splitOn sep)).map (·.1)))
  else if strict then none
  else some line

/-- What the program is asked to do. -/
structure Task where
  list : Option (Bool × Octets) := none
  separator : Option Char := none

/-- A task with what one more option asks for. -/
def Task.add (k : Task) (o : Opt) : Except Octets Task :=
  let v := o.value.getD []
  if o.key ∈ ["bytes", "characters", "fields"] then
    if k.list.isSome then .error "only one list may be specified".toList
    else .ok { k with list := some (o.key = "fields", v) }
  else if o.key = "delimiter" then
    if 1 < v.length then
      .error "the delimiter must be a single character".toList
    else .ok { k with separator := some (v.headD (Char.ofNat 0)) }
  else .ok k

end Cut

open Cut in
/-- Parts of every line of files. -/
def cut : Program := fun c =>
  let switches : List Switch :=
    [.valued 'b' "bytes", .valued 'c' "characters", .valued 'f' "fields",
     .valued 'd' "delimiter", .flag 'n' "", .flag 's' "only-delimited",
     .flag 'z' "zero-terminated", .long "complement" .nothing,
     .long "output-delimiter" .value]
  c.asked switches true (fun m => Work.misuse 1 m.message) ({} : Task)
    (fun k o => Work.accept (Work.misuse 1) (k.add o)) fun k os paths =>
    let strict := hasOpt os "only-delimited"
    let lineEnd := if hasOpt os "zero-terminated" then Char.ofNat 0 else '\n'
    let between := (optValue? os "output-delimiter").map fun o =>
      if o.isEmpty then [Char.ofNat 0] else o
    let run (f : Octets → Option Octets) : Work Unit := do
      Work.eachSource paths Work.refuse (fun _ s =>
        Work.pass (fun o => (Octets.linesBy lineEnd o).flatMap fun l =>
          match f (Octets.withoutEnd lineEnd l) with
          | some o => o ++ [lineEnd]
          | none => []) s)
      Work.closeInput "-" paths
    match k.list with
    | none =>
      Work.misuse 1
        "you must specify a list of bytes, characters, or fields".toList
    | some (byFields, list) =>
      if !byFields && k.separator.isSome then
        Work.misuse 1 ("an input delimiter may be specified only when " ++
          "operating on fields").toList
      else if !byFields && strict then
        Work.misuse 1 ("suppressing non-delimited lines makes sense\n\t" ++
          "only when operating on fields").toList
      else
        match rangesOf ⟨byFields⟩ list with
        | .error m => Work.misuse 1 m
        | .ok rs =>
          let rs := if hasOpt os "complement" then complement rs 1 else rs
          if byFields then
            let sep := k.separator.getD '\t'
            run (fields rs sep (between.getD [sep]) strict)
          else run fun l => some (octets rs (between.getD []) l)

end BitProbe.Bench
