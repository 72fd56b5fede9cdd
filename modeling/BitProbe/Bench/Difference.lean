import BitProbe.Instances
import Std.Data.HashMap

/-!
Where two sequences differ.

Items without partners are marked in both sequences; the others are the same
in both. Few items are marked: a search from both ends meets on a way that
marks as few of them as it can. Items that are not worth a search are marked
before it, and runs of marks are moved to where they are expected after it.

* `Difference.Box`, `Difference.compare`: marking as few items as possible;
* `Difference.Worth`, `Difference.settle`: items that are marked beforehand;
* `Difference.shift`: moving runs of marks;
* `Change`, `Difference.changesOf`: runs of marks that belong together, with
  `Difference.sum_removed` and `Difference.length_kept`;
* `Difference.between`: where two sequences differ.
-/

namespace BitProbe.Bench

/-- Items of one sequence that stand in the place of items of another. -/
structure Change where
  /-- How many items of the first sequence come before. -/
  before : Nat
  removed : Nat
  /-- How many items of the second sequence come before. -/
  after : Nat
  added : Nat
  deriving DecidableEq

namespace Change

/-- Where the first sequence goes on. -/
def oldEnd (c : Change) : Nat := c.before + c.removed

/-- Where the second sequence goes on. -/
def newEnd (c : Change) : Nat := c.after + c.added

/-- A change of what stands behind so many items in both sequences. -/
def behind (c : Change) (n : Nat) : Change :=
  { c with before := c.before + n, after := c.after + n }

end Change

namespace Difference

/-- Which items of a sequence have no partners. -/
abbrev Marks := Array Bool

/-- Whether an item has a mark; what is no item has none. -/
def marked (m : Marks) (i : Nat) : Bool := m.getD i false

/-! ### Changes -/

/-- The run of marks that a list of them starts with. -/
def runLength (marks : List Bool) : Nat := (marks.takeWhile id).length

/-- A change before others, unless it is none. -/
def close (c : Change) (cs : List Change) : List Change :=
  if c.removed = 0 && c.added = 0 then cs else c :: cs

/-- The changes that marks of the items of two sequences stand for. A change
has been begun. -/
def changesFrom : List Bool → List Bool → Change → List Change
  | true :: as, bs, c => changesFrom as bs { c with removed := c.removed + 1 }
  | false :: as, bs, c =>
    let c := { c with added := runLength bs }
    close c (changesFrom as (bs.drop (c.added + 1))
      ⟨c.oldEnd + 1, 0, c.newEnd + 1, 0⟩)
  | [], bs, c => close { c with added := runLength bs } []

/-- The changes that marks of the items of two sequences stand for. -/
def changesOf (a b : Marks) : List Change :=
  changesFrom a.toList b.toList ⟨0, 0, 0, 0⟩

/-- What a change that is none removes does not count. -/
theorem sum_removed_close (c : Change) (cs : List Change) :
    ((close c cs).map (·.removed)).sum =
      c.removed + (cs.map (·.removed)).sum := by
  rw [close]
  split <;> simp_all

/-- Every mark of the first sequence is an item that is removed. -/
theorem sum_removed_from (as bs : List Bool) (c : Change) :
    ((changesFrom as bs c).map (·.removed)).sum =
      c.removed + as.count true := by
  induction as generalizing bs c with
  | nil => simp [changesFrom, sum_removed_close]
  | cons m as ih =>
    cases m with
    | true => simp [changesFrom, ih]; omega
    | false => simp [changesFrom, sum_removed_close, ih]

/-- Changes remove as many items as have marks. -/
theorem sum_removed (a b : Marks) :
    ((changesOf a b).map (·.removed)).sum = a.toList.count true := by
  simp [changesOf, sum_removed_from]

/-- The items of a sequence that have no marks. -/
def kept {α : Type} (xs : List α) (marks : List Bool) : List α :=
  ((xs.zip marks).filter fun p => !p.2).map (·.1)

/-- What changes remove and what is kept is everything. -/
theorem length_kept {α : Type} (xs : List α) (a b : Marks)
    (h : xs.length = a.size) :
    ((changesOf a b).map (·.removed)).sum + (kept xs a.toList).length =
      xs.length := by
  rw [sum_removed]
  have count (ms : List Bool) (ys : List α) (h : ys.length = ms.length) :
      ms.count true + (kept ys ms).length = ys.length := by
    induction ms generalizing ys with
    | nil => simp_all [kept]
    | cons m ms ih =>
      cases ys with
      | nil => simp at h
      | cons y ys =>
        have rest := ih ys (by simpa using h)
        rw [kept, List.length_map] at rest
        cases m <;> simp [kept] <;> omega
  exact count a.toList xs (by simpa using h)

/-! ### The search -/

/-- A part of each of two sequences. -/
structure Box where
  left : Nat
  right : Nat
  top : Nat
  bottom : Nat

/-- Whether items of two sequences are the same. -/
def same (xs ys : Array Nat) (i j : Nat) : Bool := xs[i]? == ys[j]?

/-- A box without the items at its start that are the same. -/
def Box.trimStart (xs ys : Array Nat) : Nat → Box → Box
  | 0, b => b
  | fuel + 1, b =>
    if b.left < b.right && b.top < b.bottom && same xs ys b.left b.top then
      trimStart xs ys fuel { b with left := b.left + 1, top := b.top + 1 }
    else b

/-- A box without the items at its end that are the same. -/
def Box.trimEnd (xs ys : Array Nat) : Nat → Box → Box
  | 0, b => b
  | fuel + 1, b =>
    if b.left < b.right && b.top < b.bottom &&
        same xs ys (b.right - 1) (b.bottom - 1) then
      trimEnd xs ys fuel
        { b with right := b.right - 1, bottom := b.bottom - 1 }
    else b

/-- How far ways have come on each diagonal, a diagonal being the places that
are equally far on in one sequence before the other one. -/
structure Front where
  reached : Array Int
  /-- What stands for diagonals that no way has come to. -/
  nowhere : Int
  /-- The first of the diagonals that are looked at. -/
  low : Int
  /-- The last of the diagonals that are looked at. -/
  high : Int
  /-- The place of the first diagonal. -/
  shift : Int

namespace Front

/-- How far ways have come on a diagonal. -/
def at_ (f : Front) (d : Int) : Int :=
  f.reached.getD (d + f.shift).toNat f.nowhere

/-- Ways come so far on a diagonal. -/
def set (f : Front) (d x : Int) : Front :=
  { f with reached := f.reached.set! (d + f.shift).toNat x }

/-- A front with the diagonals on both sides, as far as there are any. -/
def widen (f : Front) (least most : Int) : Front :=
  let f := if least < f.low then
      { f with low := f.low - 1 }.set (f.low - 2) f.nowhere
    else { f with low := f.low + 1 }
  if f.high < most then
    { f with high := f.high + 1 }.set (f.high + 2) f.nowhere
  else { f with high := f.high - 1 }

/-- The diagonals that are looked at: every other one, from the last to the
first. -/
def diagonals (f : Front) : List Int :=
  (List.range ((f.high - f.low + 2) / 2).toNat).map fun (i : Nat) =>
    f.high - 2 * (i : Int)

end Front

/-- Goes on along a diagonal from a place as long as items are the same. -/
def forth (xs ys : Array Nat) (b : Box) (d : Int) : Nat → Int → Int
  | 0, x => x
  | fuel + 1, x =>
    if x < b.right && x - d < b.bottom &&
        same xs ys x.toNat (x - d).toNat then
      forth xs ys b d fuel (x + 1)
    else x

/-- Goes back along a diagonal from a place as long as items are the same. -/
def back (xs ys : Array Nat) (b : Box) (d : Int) : Nat → Int → Int
  | 0, x => x
  | fuel + 1, x =>
    if b.left < x && b.top < x - d &&
        same xs ys (x - 1).toNat (x - 1 - d).toNat then
      back xs ys b d fuel (x - 1)
    else x

/-- Takes a step with each of some diagonals until two ways meet. -/
def along (step : Front → Int → Front × Option (Int × Int)) :
    Front → List Int → Front × Option (Int × Int)
  | f, [] => (f, none)
  | f, d :: ds =>
    match step f d with
    | (f, some p) => (f, some p)
    | (f, none) => along step f ds

/-- The place at which ways from both ends of a box meet, after as many steps
as they need. -/
def middle (xs ys : Array Nat) (b : Box) : Nat → Front → Front → Int × Int
  | 0, _, _ => (b.left, b.top)
  | fuel + 1, f, g =>
    let least : Int := (b.left : Int) - b.bottom
    let most : Int := (b.right : Int) - b.top
    let size := b.right + b.bottom
    let isOdd := ((b.left + b.top + b.right + b.bottom) % 2 = 1 : Bool)
    let f := f.widen least most
    let ahead (f : Front) (d : Int) : Front × Option (Int × Int) :=
      let before := f.at_ (d - 1)
      let above := f.at_ (d + 1)
      let x := forth xs ys b d size
        (if before < above then above else before + 1)
      (f.set d x,
        if isOdd && g.low ≤ d && d ≤ g.high && g.at_ d ≤ x then
          some (x, x - d)
        else none)
    match along ahead f f.diagonals with
    | (_, some p) => p
    | (f, none) =>
      let g := g.widen least most
      let behind (g : Front) (d : Int) : Front × Option (Int × Int) :=
        let before := g.at_ (d - 1)
        let above := g.at_ (d + 1)
        let x := back xs ys b d size
          (if before < above then before else above - 1)
        (g.set d x,
          if !isOdd && f.low ≤ d && d ≤ f.high && x ≤ f.at_ d then
            some (x, x - d)
          else none)
      match along behind g g.diagonals with
      | (_, some p) => p
      | (g, none) => middle xs ys b fuel f g

/-- The place that parts a box into two. -/
def Box.split (xs ys : Array Nat) (b : Box) : Int × Int :=
  let far : Int := xs.size + ys.size + 1
  let shift : Int := (ys.size : Int) + 1
  let start (nowhere d x : Int) : Front :=
    Front.set { reached := Array.replicate (xs.size + ys.size + 3) nowhere
                nowhere, low := d, high := d, shift } d x
  middle xs ys b (xs.size + ys.size + 1)
    (start (-1) ((b.left : Int) - b.top) b.left)
    (start far ((b.right : Int) - b.bottom) b.right)

/-- Marks the items from one place to another. -/
def mark (m : Marks) (first end_ : Nat) : Marks :=
  (List.range' first (end_ - first)).foldl (fun m i => m.set! i true) m

/-- The marks of two sequences after one box has been looked at: the items in
it that have no partners are marked. -/
def compare (xs ys : Array Nat) : Nat → Box → Marks × Marks → Marks × Marks
  | 0, _, m => m
  | fuel + 1, b, (m, n) =>
    let size := xs.size + ys.size
    let b := (b.trimStart xs ys size).trimEnd xs ys size
    if b.left = b.right then (m, mark n b.top b.bottom)
    else if b.top = b.bottom then (mark m b.left b.right, n)
    else
      let (x, y) := b.split xs ys
      compare xs ys fuel { b with left := x.toNat, top := y.toNat }
        (compare xs ys fuel { b with right := x.toNat, bottom := y.toNat }
          (m, n))

/-! ### What is not worth a search -/

/-- Whether an item is worth a search for its partner. -/
inductive Worth where
  | searched
  /-- There is no partner. -/
  | alone
  /-- There are so many partners that any of them means little. -/
  | common
  deriving DecidableEq

/-- About the root of a number. -/
def roughRoot (n : Nat) : Nat := 2 ^ (n.log2 / 2)

/-- How often each item is in a sequence. -/
def tally (xs : Array Nat) : Std.HashMap Nat Nat :=
  xs.foldl (fun m x => m.insert x (m.getD x 0 + 1)) {}

/-- What the items of a sequence are worth beside another one. -/
def worths (xs ys : Array Nat) : List Worth :=
  let counts := tally ys
  let many := 5 * roughRoot (xs.size / 64)
  xs.toList.map fun x =>
    let n := counts.getD x 0
    if n = 0 then .alone else if many < n then .common else .searched

/-- Whether an item that is common is searched for after all. -/
def Worth.calm : Worth → Worth
  | common => searched
  | w => w

/-- Items that stand together, as many as there are, those that are searched
for apart from the others. -/
def runs (ws : List Worth) : List (List Worth) :=
  ws.splitBy fun v w => (v = .searched) = (w = .searched)

/-- Common items at the start of a run are searched for: until three lone ones
stand together, or a lone one comes after eight items. -/
def calmStart : Nat → Nat → List Worth → List Worth
  | _, _, [] => []
  | n, lone, w :: ws =>
    if 8 ≤ n && w = .alone then w :: ws
    else
      let lone := if w = .alone then lone + 1 else 0
      if lone = 3 then w :: ws else w.calm :: calmStart (n + 1) lone ws

/-- What a run of items that starts and ends with lone ones is worth. -/
def settleRun (ws : List Worth) : List Worth :=
  if ws.length < 4 * ws.count .common then ws.map .calm
  else
    let least := roughRoot (ws.length / 4) + 1
    let ws := (ws.splitBy (· = ·)).flatMap fun r =>
      if least ≤ r.length then r.map .calm else r
    (calmStart 0 0 (calmStart 0 0 ws).reverse).reverse

/-- What items are worth, where common ones are marked only among lone ones. -/
def settle (ws : List Worth) : List Worth :=
  (runs ws).flatMap fun r =>
    let start := r.takeWhile (· ≠ .alone)
    let rest := r.drop start.length
    let finish := (rest.reverse.takeWhile (· = .common)).reverse
    start.map .calm ++ settleRun (rest.take (rest.length - finish.length)) ++
      finish.map .calm

/-! ### Moving runs of marks -/

/-- The first item from a place on that has no mark. -/
def runEnd (m : Marks) : Nat → Nat → Nat
  | 0, i => i
  | fuel + 1, i => if marked m i then runEnd m fuel (i + 1) else i

/-- Where the run of marks starts that ends before a place. -/
def runStart (m : Marks) : Nat → Nat
  | 0 => 0
  | i + 1 => if marked m i then runStart m i else i + 1

/-- A run of marks that is being moved. -/
structure Run where
  marks : Marks
  first : Nat
  end_ : Nat
  /-- The place in the other sequence that the end of the run is at. -/
  across : Nat
  /-- The last end at which there is a run in the other sequence as well. -/
  meets : Option Nat := none

namespace Run

/-- The run one item further back. -/
def step (r : Run) (other : Marks) : Run :=
  { r with
    marks := (r.marks.set! (r.first - 1) true).set! (r.end_ - 1) false
    first := r.first - 1
    end_ := r.end_ - 1
    across := runStart other r.across - 1 }

/-- The run as far back as the items before it are like those at its end. -/
def toStart (keys : Array Nat) (other : Marks) : Nat → Run → Run
  | 0, r => r
  | fuel + 1, r =>
    if 0 < r.first && same keys keys (r.first - 1) (r.end_ - 1) then
      let r := r.step other
      toStart keys other fuel { r with first := runStart r.marks r.first }
    else r

/-- The run as far forward as the items behind it are like those at its
start. -/
def toEnd (keys : Array Nat) (other : Marks) : Nat → Run → Run
  | 0, r => r
  | fuel + 1, r =>
    if r.end_ < keys.size && same keys keys r.first r.end_ then
      let marks := (r.marks.set! r.first false).set! r.end_ true
      let end_ := runEnd marks keys.size (r.end_ + 1)
      let across := runEnd other other.size (r.across + 1)
      toEnd keys other fuel
        { marks, end_, across
          first := r.first + 1
          meets := if r.across + 1 < across then some end_ else r.meets }
    else r

/-- The run moved back and forward until it meets no others any more. -/
def grow (keys : Array Nat) (other : Marks) : Nat → Run → Run
  | 0, r => r
  | fuel + 1, r =>
    let length := r.end_ - r.first
    let r := r.toStart keys other keys.size
    let r := { r with
      meets := if 0 < r.across && marked other (r.across - 1) then some r.end_
        else none }
    let r := r.toEnd keys other keys.size
    if r.end_ - r.first = length then r else grow keys other fuel r

/-- The run moved back to where there is one in the other sequence as well. -/
def toMeet (other : Marks) : Nat → Run → Run
  | 0, r => r
  | fuel + 1, r =>
    match r.meets with
    | some m => if m < r.end_ then toMeet other fuel (r.step other) else r
    | none => r

end Run

/-- Moves the runs of marks of a sequence from a place on, as far forward as
they go, or to where there are runs in the other sequence as well. -/
def shiftFrom (keys : Array Nat) (other : Marks) : Nat → Nat → Nat → Marks →
    Marks
  | 0, _, _, m => m
  | fuel + 1, i, j, m =>
    if keys.size ≤ i then m
    else if !marked m i then
      shiftFrom keys other fuel (i + 1) (runEnd other other.size j + 1) m
    else
      let r : Run :=
        { marks := m, first := i, end_ := runEnd m m.size i
          across := runEnd other other.size j }
      let r := (r.grow keys other (keys.size + 1)).toMeet other keys.size
      shiftFrom keys other fuel r.end_ r.across r.marks

/-- Moves the runs of marks of a sequence. -/
def shift (keys : Array Nat) (other m : Marks) : Marks :=
  shiftFrom keys other ((keys.size + 1) * (keys.size + 1)) 0 0 m

/-! ### Everything -/

/-- The items that are worth a search, and their places. -/
def searched (xs : Array Nat) (ws : List Worth) : Array Nat × Array Nat :=
  let ps := (ws.zipIdx.filter fun (p : Worth × Nat) => p.1 = .searched).map (·.2)
  ((ps.map fun i => xs.getD i 0).toArray, ps.toArray)

/-- Marks of some items of a sequence as marks of all of them; those that are
not worth a search are marked as well. -/
def spread (places : Array Nat) (ws : List Worth) (m : Marks) : Marks :=
  let all : Marks := (ws.map fun w => decide (w ≠ .searched)).toArray
  (List.range places.size).foldl
    (fun (all : Marks) i =>
      if marked m i then all.set! (places.getD i 0) true else all) all

/-- Where two sequences differ. Unless as few items as possible are to be
marked, those that are not worth a search are marked beforehand. -/
def between (isThorough : Bool) (xs ys : Array Nat) : List Change :=
  let worth (xs ys : Array Nat) : List Worth :=
    if isThorough then xs.toList.map fun _ => .searched
    else settle (worths xs ys)
  let v := worth xs ys
  let w := worth ys xs
  let (as, ps) := searched xs v
  let (bs, qs) := searched ys w
  let (m, n) := compare as bs (as.size + bs.size + 1)
    ⟨0, as.size, 0, bs.size⟩
    (Array.replicate as.size false, Array.replicate bs.size false)
  let m := spread ps v m
  let n := spread qs w n
  let m := shift xs n m
  let n := shift ys m n
  changesOf m n

/-- Nothing differs from nothing. -/
theorem between_empty : between false #[] #[] = [] := by decide +kernel

end Difference

end BitProbe.Bench
