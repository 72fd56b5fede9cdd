/-!
UTF-8.

Decoding is a machine that takes one byte at a time. Between two bytes it
either stands `between` characters or is `inside` one, and then it knows how
many bytes are owed, which range the next of them must lie in, and the bits
read so far. A byte outside the range closes the sequence as ill-formed and
is looked at again as a first byte, so that what is given up is always a
maximal ill-formed part.

* `scan`: the characters of a byte string, `none` for each ill-formed part;
* `decode`: the text, if no part is ill-formed;
* `decodeLossy`: the text with U+FFFD for each ill-formed part;
* `encode`: the bytes of a text.

`scanFrom_cons` runs the machine by one byte, and `step_ascii` says what makes
an ASCII byte a safe place to cut: a character still open is given up before
it, exactly as at the end of the bytes.
-/

namespace BitProbe.Text.Utf8

/-- Where the machine stands between two bytes. -/
inductive State where
  /-- Between two characters. -/
  | between
  /-- Inside a character: `owed + 1` bytes are still to come, the next one
  from `low` to `high`, and `bits` holds what has been read. -/
  | inside (owed : Nat) (low high : UInt8) (bits : Nat)
  deriving DecidableEq, Repr

/-- A first byte: what it completes, and where it leads. -/
def first (b : UInt8) : List (Option Char) × State :=
  if b < 0x80 then ([some (Char.ofNat b.toNat)], .between)
  else if b < 0xC2 then ([none], .between)
  else if b < 0xE0 then ([], .inside 0 0x80 0xBF (b.toNat - 0xC0))
  else if b = 0xE0 then ([], .inside 1 0xA0 0xBF 0)
  else if b = 0xED then ([], .inside 1 0x80 0x9F 0xD)
  else if b < 0xF0 then ([], .inside 1 0x80 0xBF (b.toNat - 0xE0))
  else if b = 0xF0 then ([], .inside 2 0x90 0xBF 0)
  else if b < 0xF4 then ([], .inside 2 0x80 0xBF (b.toNat - 0xF0))
  else if b = 0xF4 then ([], .inside 2 0x80 0x8F 4)
  else ([none], .between)

/-- One byte: what it completes or gives up, and where it leads. -/
def step (s : State) (b : UInt8) : List (Option Char) × State :=
  match s with
  | .between => first b
  | .inside owed low high bits =>
    if low ≤ b && b ≤ high then
      let bits := bits * 64 + (b.toNat - 0x80)
      match owed with
      | 0 => ([some (Char.ofNat bits)], .between)
      | n + 1 => ([], .inside n 0x80 0xBF bits)
    else
      let r := first b
      (none :: r.1, r.2)

/-- The end of the bytes gives up a character that is not complete. -/
def finish : State → List (Option Char)
  | .between => []
  | .inside .. => [none]

/-- One byte, for a machine that keeps what it has found last first. -/
def push (m : List (Option Char) × State) (b : UInt8) :
    List (Option Char) × State :=
  let r := step m.2 b
  (r.1.reverse ++ m.1, r.2)

/-- What the machine finds from a given state on. -/
def scanFrom (s : State) (bytes : List UInt8) : List (Option Char) :=
  let m := bytes.foldl push ([], s)
  m.1.reverse ++ finish m.2

/-- The characters of a byte string, `none` for each ill-formed part. -/
def scan (bytes : List UInt8) : List (Option Char) :=
  scanFrom .between bytes

/-- The text of a byte string, if it is well-formed. -/
def decode (bytes : List UInt8) : Option (List Char) :=
  let found := scan bytes
  if found.all Option.isSome then some (found.filterMap id) else none

/-- The text of a byte string, U+FFFD for each ill-formed part. -/
def decodeLossy (bytes : List UInt8) : List Char :=
  (scan bytes).map fun c => c.getD (Char.ofNat 0xFFFD)

/-- The bytes of a text. -/
def encode (cs : List Char) : List UInt8 :=
  cs.flatMap String.utf8EncodeChar

/-- What the machine has already found stays in front of what it goes on to
find. -/
theorem foldl_push (bytes : List UInt8) (found : List (Option Char))
    (s : State) :
    bytes.foldl push (found, s) =
      ((bytes.foldl push ([], s)).1 ++ found,
        (bytes.foldl push ([], s)).2) := by
  induction bytes generalizing found s with
  | nil => simp
  | cons b bytes ih =>
    simp only [List.foldl_cons]
    rw [show push (found, s) b = ((step s b).1.reverse ++ found, (step s b).2)
      from rfl]
    rw [show push ([], s) b = ((step s b).1.reverse ++ [], (step s b).2)
      from rfl]
    rw [ih ((step s b).1.reverse ++ found), ih ((step s b).1.reverse ++ [])]
    simp

/-- At the end of the bytes only an open character is given up. -/
@[simp] theorem scanFrom_nil (s : State) : scanFrom s [] = finish s := by
  simp [scanFrom]

/-- The machine finds what its first step finds, and then the rest. -/
theorem scanFrom_cons (s : State) (b : UInt8) (bytes : List UInt8) :
    scanFrom s (b :: bytes) =
      (step s b).1 ++ scanFrom (step s b).2 bytes := by
  simp only [scanFrom, List.foldl_cons]
  rw [show push ([], s) b = ((step s b).1.reverse ++ [], (step s b).2)
    from rfl, foldl_push]
  simp

/-- An ASCII byte gives up a character that is open, and is one itself. -/
theorem step_ascii {b : UInt8} (h : b < 0x80) (s : State)
    (hs : s = .between ∨ ∃ n lo hi bits, s = .inside n lo hi bits ∧ 0x80 ≤ lo) :
    step s b = (finish s ++ [some (Char.ofNat b.toNat)], .between) := by
  rcases hs with rfl | ⟨n, lo, hi, bits, rfl, hlo⟩
  · simp [step, first, h, finish]
  · have : ¬ lo ≤ b := fun hb =>
      absurd (UInt8.lt_of_le_of_lt (UInt8.le_trans hlo hb) h)
        (by simp)
    simp [step, first, h, finish, this]

end BitProbe.Text.Utf8
