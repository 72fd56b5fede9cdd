import BitProbe.Bench.Octets
import BitProbe.Bench.Options

/-!
Numbers as products of primes.

Small divisors are found by trying them. What is left is either prime, which
powers modulo the number show, or has a divisor that shows where two places of
a sequence of squares meet modulo it.

* `Primes.power`, `Primes.isPrime`: powers modulo a number, and the test that
  they give;
* `Primes.meeting?`, `Primes.divisor?`: a divisor of a number that is not
  prime;
* `Primes.factors?`, with `Primes.prod_factors`: the prime factors in
  ascending order, which multiply to the number;
* `Factoring.powers`, with `Factoring.powers_length`: factors with how often
  each of them stands there;
* `Factoring.line`: a number with its factors;
* `factor`: the program.
-/

namespace BitProbe.Bench

/-! ### Prime factors -/

namespace Primes

/-- A power modulo a number, bit by bit of the exponent. -/
def power (base exponent modulus : Nat) : Nat :=
  (List.range (Nat.log2 exponent + 1)).foldr (fun i r =>
    let square := r * r % modulus
    if exponent.testBit i then square * base % modulus else square) 1

/-- How often two divides a number, and what is left. -/
def halved : Nat → Nat → Nat × Nat
  | 0, n => (0, n)
  | fuel + 1, n =>
    if n % 2 = 0 then
      let r := halved fuel (n / 2)
      (r.1 + 1, r.2)
    else (0, n)

/-- The first primes, which are tried as bases and as divisors. -/
def bases : List Nat :=
  [2, 3, 5, 7, 11, 13, 17, 19, 23, 29, 31, 37, 41, 43, 47, 53, 59, 61, 67, 71,
   73, 79, 83, 89, 97]

/-- Whether squares of a number come to one less than the modulus in so many
steps. -/
def comesToLast (modulus : Nat) : Nat → Nat → Bool
  | 0, _ => false
  | n + 1, x => x + 1 = modulus || comesToLast modulus n (x * x % modulus)

/-- Whether an odd number passes the test of a base. -/
def passes (n base : Nat) : Bool :=
  let (twos, odd) := halved (Nat.log2 n + 1) (n - 1)
  let x := power base odd n
  base % n = 0 || x = 1 || comesToLast n twos x

/-- Whether a number is prime. -/
def isPrime (n : Nat) : Bool :=
  1 < n && (bases.contains n ||
    bases.all fun b => n % b ≠ 0 && passes n b)

/-- A divisor that shows where two places of a sequence meet, one of which
moves twice as fast. Differences are multiplied so that divisors need not be
looked for at each step. -/
def meeting? (n c : Nat) :
    Nat → Nat → Nat → Nat → Option Nat
  | 0, _, _, _ => none
  | fuel + 1, x, y, product =>
    let next (x : Nat) : Nat := (x * x + c) % n
    let x := next x
    let y := next (next y)
    let product := product * (if x < y then y - x else x - y) % n
    if product = 0 || fuel % 128 = 0 then
      let d := Nat.gcd product n
      if 1 < d then some d else meeting? n c fuel x y 1
    else meeting? n c fuel x y product

/-- The same, with a look at each step. -/
def slowMeeting? (n c : Nat) : Nat → Nat → Nat → Option Nat
  | 0, _, _ => none
  | fuel + 1, x, y =>
    let next (x : Nat) : Nat := (x * x + c) % n
    let x := next x
    let y := next (next y)
    let d := Nat.gcd (if x < y then y - x else x - y) n
    if 1 < d then some d else slowMeeting? n c fuel x y

/-- How many steps are taken until no divisor is expected any more. -/
def patience : Nat := 2 ^ 21

/-- A divisor of a number that is not prime, other than one and the number. -/
def divisor? (n : Nat) : Option Nat :=
  let isProper (d : Nat) : Bool := 1 < d && d < n && n % d = 0
  let root := Nat.sqrt n
  if isProper root then some root
  else
    [1, 2, 3, 5, 7, 11].findSome? fun c =>
      match meeting? n c patience 2 2 1 with
      | some d =>
        if isProper d then some d
        else (slowMeeting? n c 100000 2 2).filter isProper
      | none => none

/-- The divisors that are tried. -/
def tried : List Nat :=
  2 :: (List.range 1500).map fun i => 2 * i + 3

/-- How often a divisor is taken out of a number, as a list, and what is
left. -/
def takenOut (d : Nat) : Nat → Nat → List Nat × Nat
  | 0, n => ([], n)
  | fuel + 1, n =>
    if n % d = 0 && 0 < n then
      let r := takenOut d fuel (n / d)
      (d :: r.1, r.2)
    else ([], n)

/-- The divisors that are found by trying, and what is left. -/
def small : List Nat → Nat → List Nat × Nat
  | [], n => ([], n)
  | d :: ds, n =>
    if n < d * d then ([], n)
    else
      let (found, rest) := takenOut d (Nat.log2 n + 1) n
      let r := small ds rest
      (found ++ r.1, r.2)

/-- The prime factors of a number without small divisors. -/
def large? : Nat → Nat → Option (List Nat)
  | 0, _ => none
  | fuel + 1, n =>
    if n < 2 then some []
    else if isPrime n then some [n]
    else
      match divisor? n with
      | none => none
      | some d =>
        if d * (n / d) = n then
          match large? fuel d, large? fuel (n / d) with
          | some xs, some ys => some (xs ++ ys)
          | _, _ => none
        else none

/-- The prime factors of a number in ascending order, unless they are too hard
to find. -/
def factors? (n : Nat) : Option (List Nat) :=
  let (found, rest) := small tried n
  (large? (Nat.log2 n + 2) rest).map fun more =>
    found ++ more.mergeSort fun a b => a ≤ b

/-- What is taken out and what is left multiply to the number. -/
theorem prod_takenOut (d : Nat) (fuel n : Nat) :
    (takenOut d fuel n).1.prod * (takenOut d fuel n).2 = n := by
  induction fuel generalizing n with
  | zero => simp [takenOut]
  | succ fuel ih =>
    unfold takenOut
    split
    · next h =>
      simp only [Bool.and_eq_true, decide_eq_true_eq] at h
      simp only [List.prod_cons, Nat.mul_assoc, ih]
      exact Nat.mul_div_cancel' (Nat.dvd_of_mod_eq_zero h.1)
    · simp

/-- The small divisors and what is left multiply to the number. -/
theorem prod_small (ds : List Nat) (n : Nat) :
    (small ds n).1.prod * (small ds n).2 = n := by
  induction ds generalizing n with
  | nil => simp [small]
  | cons d ds ih =>
    unfold small
    split
    · simp
    · simp only [List.prod_append, Nat.mul_assoc, ih]
      exact prod_takenOut d _ n

/-- The factors of a number without small divisors multiply to it. -/
theorem prod_large (fuel n : Nat) (ps : List Nat) (hn : 0 < n)
    (h : large? fuel n = some ps) : ps.prod = n := by
  induction fuel generalizing n ps with
  | zero => simp [large?] at h
  | succ fuel ih =>
    unfold large? at h
    split at h
    · cases h
      simp only [List.prod_nil]
      omega
    · split at h
      · cases h
        simp
      · split at h
        · cases h
        · next d _ =>
          split at h
          · next hd =>
            split at h
            · next xs ys hx hy =>
              cases h
              have hpos : 0 < d ∧ 0 < n / d := by
                constructor
                · cases d with
                  | zero => simp at hd; omega
                  | succ d => omega
                · cases hq : n / d with
                  | zero => rw [hq] at hd; simp at hd; omega
                  | succ q => omega
              rw [List.prod_append, ih d xs hpos.1 hx, ih (n / d) ys hpos.2 hy,
                hd]
            · cases h
          · cases h

/-- The prime factors of a number multiply to it. -/
theorem prod_factors (n : Nat) (ps : List Nat) (hn : 0 < n)
    (h : factors? n = some ps) : ps.prod = n := by
  have hs := prod_small tried n
  unfold factors? at h
  generalize small tried n = r at h hs
  obtain ⟨found, rest⟩ := r
  obtain ⟨more, hm, rfl⟩ := Option.map_eq_some_iff.1 h
  have hr : 0 < rest := by
    cases rest with
    | zero => simp at hs; omega
    | succ q => omega
  rw [List.prod_append, (List.mergeSort_perm more _).prod_nat,
    prod_large _ _ more hr hm, hs]

end Primes

/-! ### The program -/

namespace Factoring

/-- Equal factors next to one another, with how many there are. -/
def powers : List Nat → List (Nat × Nat)
  | [] => []
  | p :: ps =>
    match powers ps with
    | (q, n) :: rest =>
      if p = q then (q, n + 1) :: rest else (p, 1) :: (q, n) :: rest
    | [] => [(p, 1)]

/-- The factors are all counted. -/
theorem powers_length (ps : List Nat) :
    ((powers ps).map (·.2)).sum = ps.length := by
  induction ps with
  | nil => rfl
  | cons p ps ih =>
    unfold powers
    split
    · next q n rest h =>
      rw [h] at ih
      simp only [List.map_cons, List.sum_cons] at ih
      split <;> simp only [List.map_cons, List.sum_cons, List.length_cons] <;>
        omega
    · next h =>
      rw [h] at ih
      simp only [List.map_nil, List.sum_nil] at ih
      simp [← ih]

/-- A number that stands behind blanks and a plus sign. -/
def number? (o : Octets) : Option Nat :=
  let o := o.dropWhile (· = ' ')
  Text.decimal? (match o with
    | '+' :: cs => cs
    | cs => cs)

/-- A number with its factors, which may be written with exponents. -/
def line (exponents : Bool) (n : Nat) (ps : List Nat) : Octets :=
  let texts := if exponents then
      (powers ps).map fun (p, k) =>
        Text.decimal p ++ if k = 1 then [] else '^' :: Text.decimal k
    else ps.map Text.decimal
  Text.decimal n ++ ':' :: texts.flatMap (' ' :: ·)

/-- How many octets are kept back at most. -/
def held : Nat := 512

/-- Numbers from this one on are not kept back. -/
def huge : Nat := 2 ^ 127

/-- Writes the lines that are kept back if there are enough of them. -/
def flush (pending : Octets) : Work Octets := do
  if pending.length < held then return pending
  let kept := ((pending.take held).reverse.takeWhile (· ≠ '\n')).length
  Work.say (pending.take (held - kept))
  return pending.drop (held - kept)

/-- Writes numbers with their factors. Lines are kept back, messages are
not. -/
def write (exponents : Bool) : List Octets → Octets → Work Unit
  | [], pending => Work.say pending
  | o :: os, pending => do
    match number? o with
    | none =>
      Work.complain 1 (quoted o ++ " is not a valid positive integer".toList)
      write exponents os pending
    | some n =>
      match if n = 0 then some [] else Primes.factors? n with
      | none => Work.hang
      | some ps =>
        let o := line exponents n ps ++ ['\n']
        if huge ≤ n then
          Work.say o
          write exponents os pending
        else write exponents os (← flush (pending ++ o))

end Factoring

open Factoring in
/-- Writes numbers with their prime factors. -/
def factor : Program := fun c =>
  c.given [.flag 'h' "exponents"] true 1 fun os args => do
    let exponents := hasOpt os "exponents"
    if !args.isEmpty then write exponents args []
    else
      match ← Work.takeInput with
      | .error e =>
        Work.complain 1 ("error reading input: ".toList ++ e.reason.toList)
      | .ok s =>
        if s.isEndless then Work.hang
        let words := (s.held.splitOnP (fun c => c ∈ [' ', '\t', '\n'])).filter
          (!·.isEmpty)
        write exponents
          (words.map fun w => w.takeWhile (· ≠ Char.ofNat 0)) []

end BitProbe.Bench
