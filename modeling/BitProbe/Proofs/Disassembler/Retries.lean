import BitProbe.Disassembler
import Mathlib.Data.Nat.Find
import Mathlib.Logic.Relation
import Mathlib.Order.Bounds.Basic
import Mathlib.Tactic.Common

/-!
Runs that are repeated.

Only a run that ends in a process failure is repeated, and as often as is
allowed at most. So the run that counts is the first one that does not fail, or
the last one allowed if all of them fail. The runs are counted with 32 bits, and
the count stays within what is allowed, so it never starts again at zero.

* `Oracle.after`, `Oracle.outcome`: what one question after another leads to;
* `EndsAt`: the number of the run that counts;
* `Disassembler.retrying_eq`, `Disassembler.exists_oracle_eq`: which run counts;
* `Disassembler.Repeats`, `Disassembler.reached`: the counts on the way to it;
* `Disassembler.oracle_endsAt`: how often a disassembler runs on a word.
-/

namespace BitProbe

variable {σ : Type}

/-- A process failure, and no other answer, is a failure. -/
lemma Answer.isFailure_iff {a : Answer} :
    a.isFailure = true ↔ ∃ message, a = .error (.processFailure message) := by
  rcases a with (_ | _ | message) | text <;>
    simp [Answer.isFailure, OracleError.isRetryable]

/-! ### One question after another -/

namespace Oracle

/-- The state after a word has been asked so many times. -/
def after (o : Oracle σ) (word : Word) (s : σ) : Nat → σ
  | 0 => s
  | n + 1 => (o word (o.after word s n)).2

/-- The answer to a word that has been asked so many times before. -/
def outcome (o : Oracle σ) (word : Word) (s : σ) (n : Nat) : Answer :=
  (o word (o.after word s n)).1

/-- What each question keeps true is true after all of them. -/
lemma after_induction {P : σ → Prop} {o : Oracle σ} {word : Word} {s : σ}
    (hs : P s) (hstep : ∀ t, P t → P (o word t).2) (n : Nat) :
    P (o.after word s n) := by
  induction n with
  | zero => exact hs
  | succ n ih => exact hstep _ ih

/-- A log gains a word with each question about it. -/
lemma after_logged (o : Oracle σ) (word : Word) (s : σ) (n : Nat) :
    o.logged.after word ([], s) n =
      (List.replicate n word, o.after word s n) := by
  induction n with
  | zero => rfl
  | succ n ih =>
      rw [after, ih]
      rfl

/-- A log changes no answer. -/
lemma outcome_logged (o : Oracle σ) (word : Word) (s : σ) (n : Nat) :
    o.logged.outcome word ([], s) n = o.outcome word s n := by
  rw [outcome, after_logged]
  rfl

end Oracle

/-! ### The run that counts -/

/-- Of the numbers up to a limit, the first one that is not failed, or the limit
if all of them are. -/
def EndsAt (failed : Nat → Prop) (limit n : Nat) : Prop :=
  IsLeast {k | k ≤ limit ∧ ¬ failed k} n ∨
    n = limit ∧ ∀ k ≤ limit, failed k

namespace EndsAt

variable {failed : Nat → Prop} {limit n : Nat}

/-- There is such a number. -/
lemma exists_endsAt (failed : Nat → Prop) (limit : Nat) :
    ∃ n, EndsAt failed limit n := by
  by_cases h : ∃ k, k ≤ limit ∧ ¬ failed k
  · classical
    exact ⟨Nat.find h, .inl ⟨Nat.find_spec h, fun k hk => Nat.find_min' h hk⟩⟩
  · push Not at h
    exact ⟨limit, .inr ⟨rfl, h⟩⟩

lemma le (h : EndsAt failed limit n) : n ≤ limit := by
  rcases h with h | ⟨rfl, -⟩
  · exact h.1.1
  · exact Nat.le_refl n

/-- All before it are failed. -/
lemma failed_of_lt (h : EndsAt failed limit n) {k : Nat} (hk : k < n) :
    failed k := by
  have hle := h.le
  rcases h with h | ⟨rfl, hall⟩
  · by_contra hfailed
    exact absurd (h.2 ⟨by omega, hfailed⟩) (Nat.not_le.2 hk)
  · exact hall k (by omega)

/-- If it is failed itself, it is the limit. -/
lemma eq_of_failed (h : EndsAt failed limit n) (hn : failed n) :
    n = limit := by
  rcases h with h | ⟨h, -⟩
  · exact absurd hn h.1.2
  · exact h

end EndsAt

namespace Disassembler

variable {o : Oracle σ} {retries : UInt32} {word : Word} {s : σ}

/-- One run that is repeated leads to the next one. -/
def Repeats (o : Oracle σ) (retries : UInt32) (word : Word)
    (x next : UInt32 × σ) : Prop :=
  round o retries word x = .inr next

/-- A run that is not repeated counts. -/
lemma round_eq_inl {x : UInt32 × σ}
    (h : (o word x.2).1.isFailure = true → ¬ x.1 < retries) :
    round o retries word x = .inl (o word x.2) := by
  dsimp only [round]
  rw [if_neg]
  simpa using h

/-- The runs end with one that is not repeated, and go on after one that is. -/
lemma retrying_eq_round (x : UInt32 × σ) :
    retrying o retries word x =
      match round o retries word x with
      | .inl result => result
      | .inr next => retrying o retries word next := by
  rw [retrying]
  split <;> next heq => rw [heq]

lemma retrying_of_inl {x : UInt32 × σ} {result : Answer × σ}
    (h : round o retries word x = .inl result) :
    retrying o retries word x = result := by
  rw [retrying_eq_round, h]

lemma retrying_of_repeats {x next : UInt32 × σ}
    (h : Repeats o retries word x next) :
    retrying o retries word x = retrying o retries word next := by
  rw [retrying_eq_round, h]

/-- How many runs have been repeated after so many, and what there is then. -/
def counted (o : Oracle σ) (word : Word) (s : σ) (n : Nat) : UInt32 × σ :=
  (UInt32.ofNat n, o.after word s n)

/-- As long as the count is below what is allowed, it is exact. -/
lemma toNat_counted {n : Nat} (hn : n ≤ retries.toNat) :
    (counted o word s n).1.toNat = n :=
  UInt32.toNat_ofNat_of_lt' (Nat.lt_of_le_of_lt hn retries.toNat_lt)

/-- A run that fails is repeated, if not as many have been as may be. -/
lemma repeats_counted {n : Nat} (hn : n < retries.toNat)
    (hfailed : (o.outcome word s n).isFailure = true) :
    Repeats o retries word (counted o word s n) (counted o word s (n + 1)) := by
  refine round_eq_inr_iff.2 ⟨hfailed, ?_, ?_⟩
  · rwa [UInt32.lt_iff_toNat_lt, toNat_counted hn.le]
  · rw [counted, UInt32.ofNat_add]
    rfl

/-- From each count on, up to that of the run that counts, the runs end with
that one. -/
lemma retrying_counted {n : Nat}
    (hn : EndsAt (fun k => (o.outcome word s k).isFailure = true)
      retries.toNat n) {k : Nat} (hk : k ≤ n) :
    retrying o retries word (counted o word s k) =
      (o.outcome word s n, o.after word s (n + 1)) := by
  induction hk using Nat.decreasingInduction with
  | self =>
      refine retrying_of_inl (round_eq_inl fun hfailed => ?_)
      rw [UInt32.lt_iff_toNat_lt, toNat_counted hn.le, hn.eq_of_failed hfailed]
      exact Nat.lt_irrefl _
  | of_succ k hk ih =>
      have hlt : k < retries.toNat := Nat.lt_of_lt_of_le hk hn.le
      rw [retrying_of_repeats (repeats_counted hlt (hn.failed_of_lt hk)), ih]

/-- The run that counts is the first that does not fail, or the last one
allowed. -/
theorem retrying_eq {n : Nat}
    (hn : EndsAt (fun k => (o.outcome word s k).isFailure = true)
      retries.toNat n) :
    retrying o retries word (0, s) =
      (o.outcome word s n, o.after word s (n + 1)) :=
  retrying_counted hn (Nat.zero_le n)

/-- What a disassembler answers is what some run on the word leads to. -/
theorem exists_oracle_eq (d : Disassembler) (tools : Tools σ) (word : Word)
    (w : World σ) :
    ∃ n, d.oracle tools word w = ((d.attempt tools).outcome word w n,
      (d.attempt tools).after word w (n + 1)) := by
  obtain ⟨n, hn⟩ := EndsAt.exists_endsAt (fun k =>
    ((d.attempt tools).outcome word w k).isFailure = true) d.retries.toNat
  exact ⟨n, retrying_eq hn⟩

/-- On the way to the run that counts, the count is the number of runs that have
been repeated, each of which has failed. -/
theorem reached {x : UInt32 × σ}
    (h : Relation.ReflTransGen (Repeats o retries word) (0, s) x) :
    x.1 ≤ retries ∧ x.2 = o.after word s x.1.toNat ∧
      ∀ k < x.1.toNat, (o.outcome word s k).isFailure = true := by
  induction h with
  | refl => exact ⟨UInt32.zero_le, rfl, fun k hk => absurd hk (by simp)⟩
  | @tail x next _ hnext ih =>
      obtain ⟨-, hstate, hfailed⟩ := ih
      obtain ⟨hfails, hlt, rfl⟩ := round_eq_inr_iff.1 hnext
      have hcount := toNat_succ_of_lt hlt
      rw [hstate] at hfails
      refine ⟨?_, ?_, fun k hk => ?_⟩
      · rw [UInt32.le_iff_toNat_le, hcount]
        exact UInt32.lt_iff_toNat_lt.1 hlt
      · dsimp only
        rw [hcount, hstate]
        rfl
      · dsimp only at hk
        rw [hcount, Nat.lt_succ_iff] at hk
        rcases hk.lt_or_eq with hk | rfl
        · exact hfailed k hk
        · exact hfails

/-- The count never gets past the number of the run that counts. -/
lemma toNat_le_of_reached {n : Nat}
    (hn : EndsAt (fun k => (o.outcome word s k).isFailure = true)
      retries.toNat n) {x : UInt32 × σ}
    (h : Relation.ReflTransGen (Repeats o retries word) (0, s) x) :
    x.1.toNat ≤ n := by
  obtain ⟨hle, -, hfailed⟩ := reached h
  rw [UInt32.le_iff_toNat_le] at hle
  by_contra hlt
  have hlimit := hn.eq_of_failed (hfailed n (Nat.not_le.1 hlt))
  omega

/-- A disassembler runs on a word until a run does not end in a process failure,
and as often as is allowed at most: with `n` the number of the first such run, or
of the last one allowed if there is none, it runs `n + 1` times, and what run `n`
leads to counts. On the way the runs that have been repeated are counted. Only
process failures are, and the count stays within what is allowed, so that adding
one to it is exact. -/
theorem oracle_endsAt (d : Disassembler) (tools : Tools σ) (word : Word)
    (w : World σ) :
    let o := d.attempt tools
    ∃ n,
      EndsAt (fun k => ∃ message,
        o.outcome word w k = .error (.processFailure message))
        d.retries.toNat n ∧
      d.oracle tools word w = (o.outcome word w n, o.after word w (n + 1)) ∧
      retrying o.logged d.retries word (0, [], w) =
        (o.outcome word w n,
          List.replicate (n + 1) word, o.after word w (n + 1)) ∧
      ∀ x, Relation.ReflTransGen (Repeats o d.retries word) (0, w) x →
        x.1 ≤ d.retries ∧ x.1.toNat ≤ n ∧
        ∀ next, Repeats o d.retries word x next →
          next.1.toNat = x.1.toNat + 1 ∧
          ∃ message, (o word x.2).1 = .error (.processFailure message) := by
  intro o
  simp only [← Answer.isFailure_iff]
  obtain ⟨n, hn⟩ := EndsAt.exists_endsAt
    (fun k => (o.outcome word w k).isFailure = true) d.retries.toNat
  refine ⟨n, hn, retrying_eq hn, ?_, fun x hx => ?_⟩
  · have hlogged : EndsAt
        (fun k => (o.logged.outcome word ([], w) k).isFailure = true)
        d.retries.toNat n := by
      simpa only [Oracle.outcome_logged] using hn
    rw [retrying_eq hlogged, Oracle.outcome_logged, Oracle.after_logged]
  · refine ⟨(reached hx).1, toNat_le_of_reached hn hx, fun next hnext => ?_⟩
    obtain ⟨hfails, hlt, rfl⟩ := round_eq_inr_iff.1 hnext
    exact ⟨toNat_succ_of_lt hlt, hfails⟩

end Disassembler

end BitProbe
