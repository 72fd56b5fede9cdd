import BitProbe.Proofs.DecodeTable.Rows

/-!
Sweeps and tables without gaps.

If every question is asked and the answers are those of a function, each bit
and each assignment stands by itself: its verdict or row depends on the one
word that it leads to.

* `Sweep.unbroken`, `DecodeTable.unbroken`: the sweep and the table in which
  everything was asked about;
* `Sweep.run_eq_unbroken`, `DecodeTable.run_eq_unbroken`: an oracle that is
  not cut short makes these;
* `Sweep.getElem?_classes_unbroken`, `DecodeTable.find?_entries_unbroken`: the
  class of a bit and the row of an assignment;
* `Sweep.getElem?_classes_ofFunction`, `DecodeTable.find?_entries_ofFunction`:
  the same for what an oracle makes that is a function and does not fail.
-/

namespace BitProbe

variable {σ : Type}

namespace Sweep

/-- The sweep in which every bit was asked about. -/
def unbroken (c : Criteria) (f : Word → Answer) (baseline : Instruction) :
    Sweep :=
  ofAnswers c baseline ((mutants baseline.encoding).map fun w => some (f w))

/-- With all answers given nothing is left to fill up. -/
lemma padded_map {n : Nat} {ws : List Word} (f : Word → Answer)
    (h : ws.length = n) :
    padded n (ws.map f) = ws.map fun w => some (f w) := by
  rw [padded, List.length_map, h, Nat.sub_self, List.replicate_zero,
    List.append_nil, List.map_map]
  rfl

/-- An oracle that answers about every mutant as a function does makes the
unbroken sweep of that function. -/
lemma run_eq_unbroken (c : Criteria) {o : Oracle σ} {f : Word → Answer}
    {baseline : Instruction} {s : σ}
    (h : (o.ask (mutants baseline.encoding) s).1 =
      (mutants baseline.encoding).map f) :
    (run c o baseline s).1 = unbroken c f baseline := by
  rw [run_fst, h, padded_map f (length_mutants _)]
  rfl

section Unbroken

variable (c : Criteria) (f : Word → Answer) (baseline : Instruction)

/-- The verdicts of an unbroken sweep. -/
lemma getElem?_verdicts_unbroken {b : Nat} (hb : b < 64) :
    (((mutants baseline.encoding).map fun w => some (f w)).map
        (Verdict.ofAnswer c baseline))[b]? =
      some (Verdict.ofAnswer c baseline
        (some (f (baseline.encoding.flip b)))) := by
  rw [List.getElem?_map, List.getElem?_map, getElem?_mutants _ hb]
  rfl

/-- The class of a bit in an unbroken sweep is that of the verdict on the
mutant with this bit flipped. -/
lemma getElem?_classes_unbroken {b : Nat} (hb : b < 64) :
    (unbroken c f baseline).classes[b]? =
      some (Verdict.ofAnswer c baseline
        (some (f (baseline.encoding.flip b)))).bitClass := by
  rw [unbroken, ofAnswers, getElem?_classes_ofVerdicts,
    getElem?_verdicts_unbroken c f baseline hb, Option.map_some]

/-- An unbroken sweep has a class for each bit. -/
lemma length_classes_unbroken :
    (unbroken c f baseline).classes.length = Word.width := by
  rw [unbroken, ofAnswers, ofVerdicts, List.length_map, List.length_map,
    List.length_map, length_mutants]

/-- An unbroken sweep is cut short if some answer is a process failure. -/
lemma aborted_unbroken :
    (unbroken c f baseline).aborted =
      (mutants baseline.encoding).any fun w => (f w).isFailure :=
  List.any_map

end Unbroken

/-- With an oracle that is a function and does not fail, the class of a bit
is that of the verdict on the mutant with this bit flipped. -/
lemma getElem?_classes_ofFunction {c : Criteria} {f : Word → Answer}
    {baseline : Instruction}
    (h : (run c (Oracle.ofFunction f) baseline ()).1.aborted = false)
    {b : Nat} {cls : BitClass} :
    (run c (Oracle.ofFunction f) baseline ()).1.classes[b]? = some cls ↔
      b < 64 ∧ (Verdict.ofAnswer c baseline
        (some (f (baseline.encoding.flip b)))).bitClass = cls := by
  rw [aborted_run] at h
  rw [run_eq_unbroken c (Oracle.ask_ofFunction_eq_map f _ h)]
  by_cases hb : b < 64
  · rw [getElem?_classes_unbroken c f baseline hb, Option.some_inj,
      and_iff_right hb]
  · rw [List.getElem?_eq_none]
    · simp [hb]
    · rw [length_classes_unbroken]
      exact Nat.not_lt.1 hb

end Sweep

namespace DecodeTable

/-- The table in which every assignment was asked about. -/
def unbroken (c : Criteria) (f : Word → Answer) (line : Nat)
    (opcode : String) (encoding : Word) (positions : List Nat) :
    DecodeTable :=
  (start line opcode encoding positions).ofAnswers c
    ((variants encoding (SortedSet.ofList positions).toList).map fun w =>
      some (f w))

section Run

variable (c : Criteria) (maxBits : Nat) (o : Oracle σ) (f : Word → Answer)
  (line : Nat) (opcode : String) (encoding : Word) (positions : List Nat)
  (s : σ)

/-- An oracle that answers about every variant as a function does makes the
unbroken table of that function. -/
lemma run_eq_unbroken
    (hle : (SortedSet.ofList positions).toList.length ≤
      min maxBits positionsCeiling)
    (h : asked o encoding positions s =
      (variants encoding (SortedSet.ofList positions).toList).map f) :
    (run c maxBits o line opcode encoding positions s).1 =
      unbroken c f line opcode encoding positions := by
  rw [run_of_le c maxBits o line opcode encoding positions s hle, h,
    Sweep.padded_map f (length_variants _ _)]
  rfl

/-- The row of an assignment in an unbroken table is what the answer to its
word enters. -/
lemma find?_entries_unbroken {v : Nat}
    (hv : v < 2 ^ (SortedSet.ofList positions).toList.length) :
    (unbroken c f line opcode encoding positions).entries.find? v =
      rendering c (some (f (encoding.assign
        (SortedSet.ofList positions).toList (BitVec.ofNat 64 v)))) := by
  rw [unbroken, ofAnswers, find?_entriesFrom, if_pos (Nat.zero_le v),
    Nat.sub_zero, List.getElem?_map, getElem?_variants _ _ hv]
  rfl

/-- An unbroken table is cut short if some answer is a process failure. -/
lemma aborted_unbroken :
    (unbroken c f line opcode encoding positions).aborted =
      (variants encoding (SortedSet.ofList positions).toList).any
        fun w => (f w).isFailure :=
  List.any_map

end Run

/-- With an oracle that is a function, a table that is neither skipped nor
cut short has as the row of an assignment what the answer to its word
enters. -/
lemma find?_entries_ofFunction {c : Criteria} {maxBits : Nat}
    {f : Word → Answer} {line : Nat} {opcode : String} {encoding : Word}
    {positions : List Nat} {t : DecodeTable}
    (ht : (run c maxBits (Oracle.ofFunction f) line opcode encoding positions
      ()).1 = t)
    (hskip : t.skipped = false) (hab : t.aborted = false) {v : Nat}
    (hv : v < 2 ^ t.positions.length) :
    t.entries.find? v = rendering c
      (some (f (t.encoding.assign t.positions (BitVec.ofNat 64 v)))) := by
  subst ht
  rcases Nat.lt_or_ge (min maxBits positionsCeiling)
      (SortedSet.ofList positions).toList.length with h | h
  · rw [run_of_lt c maxBits _ line opcode encoding positions () h] at hskip
    cases hskip
  · have hask : asked (Oracle.ofFunction f) encoding positions () =
        (variants encoding (SortedSet.ofList positions).toList).map f := by
      refine Oracle.ask_ofFunction_eq_map f _ ?_
      rw [run_of_le c maxBits _ line opcode encoding positions () h] at hab
      rw [← Sweep.any_padded]
      exact hab
    rw [run_eq_unbroken c maxBits _ f line opcode encoding positions () h
      hask] at hv ⊢
    exact find?_entries_unbroken c f line opcode encoding positions hv

end DecodeTable

end BitProbe
