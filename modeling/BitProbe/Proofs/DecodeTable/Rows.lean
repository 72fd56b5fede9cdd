import BitProbe.DecodeTable
import BitProbe.Proofs.Oracle.Asking
import BitProbe.Proofs.Sweep.Classes

/-!
The rows of a decode table.

The entry of an assignment is what the answer to its word enters, if the
oracle was asked about the word at all.

* `DecodeTable.find?_entriesFrom`: looking a row up among numbered answers;
* `DecodeTable.run_of_lt`, `DecodeTable.run_of_le`: a table that is skipped,
  and one that is made of answers;
* `DecodeTable.find?_entries_ofAnswers`: looking a row up in such a table;
* `DecodeTable.Fits`, `DecodeTable.fits_run`: how the number of questions, the
  entries and the two marks of a table fit together.
-/

namespace BitProbe.DecodeTable

/-! ### Entries of numbered answers -/

/-- The row under a number is what the answer with that number enters. -/
lemma find?_entriesFrom (c : Criteria) (answers : List (Option Answer))
    (first v : Nat) :
    (entriesFrom c first answers).find? v =
      if first ≤ v then answers[v - first]?.bind (rendering c) else none := by
  induction answers generalizing first with
  | nil => simp [entriesFrom]
  | cons a answers ih =>
      have hstep : (entriesFrom c first (a :: answers)).find? v =
          if v = first then (rendering c a).or
            ((entriesFrom c (first + 1) answers).find? v)
          else (entriesFrom c (first + 1) answers).find? v := by
        rw [entriesFrom, List.zipIdx_cons, List.foldr_cons]
        cases hr : rendering c a with
        | none => simp [entriesFrom]
        | some text =>
            rw [SortedMap.find?_insert]
            rfl
      rw [hstep, ih]
      by_cases hv : v = first
      · subst hv
        rw [if_pos rfl, if_neg (by omega), Option.or_none]
        simp
      · rw [if_neg hv]
        by_cases hlt : first ≤ v
        · rw [if_pos hlt, if_pos (by omega),
            show v - first = v - (first + 1) + 1 by omega,
            List.getElem?_cons_succ]
        · rw [if_neg hlt, if_neg (by omega)]

/-- A question that was not asked enters nothing. -/
lemma bind_padded (c : Criteria) (n v : Nat) (answers : List Answer) :
    (Sweep.padded n answers)[v]?.bind (rendering c) =
      answers[v]?.bind fun a => rendering c (some a) := by
  rw [Sweep.padded, List.getElem?_append, List.length_map,
    List.getElem?_map, List.getElem?_replicate]
  by_cases hv : v < answers.length
  · simp [hv]
  · rw [if_neg hv, List.getElem?_eq_none (by omega)]
    split <;> rfl

/-- Each answer is counted. -/
lemma countP_padded (n : Nat) (answers : List Answer) :
    (Sweep.padded n answers).countP Option.isSome = answers.length := by
  rw [Sweep.padded, List.countP_append, List.countP_map,
    List.countP_replicate]
  simp [Function.comp_def]

/-! ### Tables that an oracle makes -/

section Run

variable {σ : Type} (c : Criteria) (maxBits : Nat) (o : Oracle σ)
  (line : Nat) (opcode : String) (encoding : Word) (positions : List Nat)
  (s : σ)

/-- A word has as many variants as there are assignments. -/
@[simp] lemma length_variants :
    (variants encoding positions).length = 2 ^ positions.length := by
  rw [variants, List.length_map, List.length_range]

/-- The variant of an assignment carries it at the positions. -/
lemma getElem?_variants {v : Nat} (hv : v < 2 ^ positions.length) :
    (variants encoding positions)[v]? =
      some (encoding.assign positions (BitVec.ofNat 64 v)) := by
  rw [variants, List.getElem?_map, List.getElem?_range hv]
  rfl

/-- The table of an instruction before any question, with the positions in
ascending order. -/
def start : DecodeTable :=
  blank line opcode encoding (SortedSet.ofList positions).toList

/-- What the oracle answers about the variants of an instruction. -/
def asked : List Answer :=
  (o.ask (variants encoding (SortedSet.ofList positions).toList) s).1

/-- With too many positions the table is skipped. -/
lemma run_of_lt (h : min maxBits positionsCeiling <
      (SortedSet.ofList positions).toList.length) :
    (run c maxBits o line opcode encoding positions s).1 =
      { start line opcode encoding positions with skipped := true } := by
  rw [run]
  exact congrArg Prod.fst (if_pos h)

/-- Otherwise it is made of the answers. -/
lemma run_of_le (h : (SortedSet.ofList positions).toList.length ≤
      min maxBits positionsCeiling) :
    (run c maxBits o line opcode encoding positions s).1 =
      (start line opcode encoding positions).ofAnswers c
        (Sweep.padded (2 ^ (SortedSet.ofList positions).toList.length)
          (asked o encoding positions s)) := by
  rw [← length_variants encoding]
  exact congrArg Prod.fst (if_neg (Nat.not_lt.2 h))

/-- A table is about the instruction and the positions that it was made
for. -/
lemma head_run :
    let t := (run c maxBits o line opcode encoding positions s).1
    t.line = line ∧ t.opcode = opcode ∧ t.encoding = encoding ∧
      t.positions = (SortedSet.ofList positions).toList := by
  rcases Nat.lt_or_ge (min maxBits positionsCeiling)
      (SortedSet.ofList positions).toList.length with h | h
  · rw [run_of_lt c maxBits o line opcode encoding positions s h]
    exact ⟨rfl, rfl, rfl, rfl⟩
  · rw [run_of_le c maxBits o line opcode encoding positions s h]
    exact ⟨rfl, rfl, rfl, rfl⟩

end Run

/-- The row of an assignment in a table made of answers. -/
lemma find?_entries_ofAnswers (c : Criteria) (t : DecodeTable) (n v : Nat)
    (answers : List Answer) :
    (t.ofAnswers c (Sweep.padded n answers)).entries.find? v =
      answers[v]?.bind fun a => rendering c (some a) := by
  rw [ofAnswers, find?_entriesFrom, if_pos (Nat.zero_le v), Nat.sub_zero,
    bind_padded]

/-! ### Questions, entries and marks -/

/-- How the parts of a table fit together: it is skipped exactly if it has too
many positions, and then nothing was asked; otherwise assignments were asked
about from zero on, all of them unless the oracle failed, and only these have
entries. -/
structure Fits (maxBits : Nat) (t : DecodeTable) : Prop where
  skipped_iff : t.skipped = true ↔
    min maxBits positionsCeiling < t.positions.length
  of_skipped : t.skipped = true →
    t.queries = 0 ∧ t.entries = ∅ ∧ t.aborted = false
  queries_pos : t.skipped = false → 0 < t.queries
  queries_le : t.queries ≤ 2 ^ t.positions.length
  complete : t.skipped = false → t.aborted = false →
    t.queries = 2 ^ t.positions.length
  asked : ∀ v text, t.entries.find? v = some text → v < t.queries

/-- The parts of a table that an oracle makes fit together, whatever the
oracle answers. -/
theorem fits_run {σ : Type} (c : Criteria) (maxBits : Nat) (o : Oracle σ)
    (line : Nat) (opcode : String) (encoding : Word) (positions : List Nat)
    (s : σ) :
    (run c maxBits o line opcode encoding positions s).1.Fits maxBits := by
  rcases Nat.lt_or_ge (min maxBits positionsCeiling)
      (SortedSet.ofList positions).toList.length with h | h
  · rw [run_of_lt c maxBits o line opcode encoding positions s h]
    constructor
    case skipped_iff => exact ⟨fun _ => h, fun _ => rfl⟩
    case of_skipped => exact fun _ => ⟨rfl, rfl, rfl⟩
    case queries_pos => exact fun hs => (by cases hs)
    case queries_le => exact Nat.zero_le _
    case complete => exact fun hs => (by cases hs)
    case asked => exact fun v text hv => (by cases hv)
  · rw [run_of_le c maxBits o line opcode encoding positions s h]
    set answers := DecodeTable.asked o encoding positions s with ha
    have hq : ((start line opcode encoding positions).ofAnswers c
        (Sweep.padded (2 ^ (SortedSet.ofList positions).toList.length)
          answers)).queries = answers.length :=
      countP_padded _ _
    have hle : answers.length ≤
        2 ^ (SortedSet.ofList positions).toList.length := by
      rw [ha, ← length_variants encoding]
      exact o.length_ask_le _ s
    constructor
    case skipped_iff =>
      exact ⟨fun hs => (by cases hs), fun hs => absurd hs (Nat.not_lt.2 h)⟩
    case of_skipped => exact fun hs => (by cases hs)
    case queries_pos =>
      intro _
      rw [hq, List.length_pos_iff]
      refine o.ask_ne_nil ?_ s
      rw [ne_eq, ← List.length_eq_zero_iff, length_variants]
      exact Nat.pos_iff_ne_zero.1 (Nat.two_pow_pos _)
    case queries_le => exact hq ▸ hle
    case complete =>
      intro _ hab
      rw [hq, ha]
      refine (o.length_ask_of_no_failure _ s ?_).trans (length_variants _ _)
      rw [← Sweep.any_padded]
      exact hab
    case asked =>
      intro v text hv
      rw [hq]
      rw [find?_entries_ofAnswers] at hv
      by_contra hlt
      rw [List.getElem?_eq_none (Nat.not_lt.1 hlt)] at hv
      cases hv

end BitProbe.DecodeTable
