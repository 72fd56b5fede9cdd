import BitProbe.FieldMap
import BitProbe.Proofs.Sorted.Lookup
import Mathlib.Data.List.Basic

/-!
What is known after any number of sweeps.

Sweeps may be recorded under any lines, and again under the same line. Two
policies live in one record. The bits of the opcode and the changes of
mnemonic are collected from all sweeps, whereas a line has the modifier bits
of one sweep only, the last one under it that has shown any.

* `FieldMap.recordAll`: recording sweeps one after another;
* `FieldMap.opcodeChanges_recordAll`, `FieldMap.mem_opcodeBits_recordAll`: what
  is collected from all of them;
* `FieldMap.modifierBitsOf_recordAll`: the last sweep of a line that has shown
  modifier bits;
* `FieldMap.modifierBitsOf_recordAll_filter`: of the sweeps under other lines,
  none matters;
* `FieldMap.modifierBitsOf_recordAll_iff`: the only one, if no line is recorded
  twice;
* `FieldMap.entries_recordAll`: all of them in order, if lines ascend;
* `ModifierBits.Of`: the modifier bits that a sweep has shown;
* `FieldMap.LastShown`: the sweep that counts for a line;
* `FieldMap.Collects`: what is known is what given sweeps have shown;
* `FieldMap.Grows`: how one more sweep may change it;
* `FieldMap.collects_recordAll`: sweeps recorded one after another are
  collected, each of them adds to what was known before, and their order does
  not matter if they are about distinct lines.
-/

namespace BitProbe

namespace FieldMap

/-! ### Recording sweeps -/

/-- What is known once sweeps are added, each under its line. -/
def recordAll (m : FieldMap) (records : List (Nat × Sweep)) : FieldMap :=
  records.foldl (fun m r => m.record r.1 r.2) m

/-- What a sweep says about its line. -/
def shown (s : Sweep) : Option ModifierBits :=
  if s.modifierBits.isEmpty then none
  else some ⟨s.baseline.opcode, s.baseline.encoding, s.modifierBits.toList⟩

@[simp] lemma recordAll_nil (m : FieldMap) : m.recordAll [] = m := rfl

lemma recordAll_cons (m : FieldMap) (r : Nat × Sweep)
    (rs : List (Nat × Sweep)) :
    m.recordAll (r :: rs) = (m.record r.1 r.2).recordAll rs :=
  rfl

/-! ### One sweep recorded -/

/-- A sweep changes what is known of its own line only, and that only if it
has shown modifier bits. -/
lemma modifierBitsOf_record (m : FieldMap) (line : Nat) (s : Sweep)
    (x : Nat) :
    (m.record line s).modifierBitsOf x =
      (if line = x then shown s else none).or (m.modifierBitsOf x) := by
  simp only [modifierBitsOf, record, shown]
  by_cases hs : s.modifierBits.isEmpty = true
  · simp [hs]
  · simp only [hs, if_false, Bool.false_eq_true, SortedMap.find?_insert]
    by_cases hx : x = line
    · simp [hx]
    · simp [hx, Ne.symm hx]

/-! ### One after another -/

/-- The changes of mnemonic are kept in the order of the sweeps. -/
lemma opcodeChanges_recordAll (m : FieldMap) (rs : List (Nat × Sweep)) :
    (m.recordAll rs).opcodeChanges =
      m.opcodeChanges ++ rs.flatMap fun r => r.2.opcodeChanges := by
  induction rs generalizing m with
  | nil => simp
  | cons r rs ih =>
      rw [recordAll_cons, ih, List.flatMap_cons, ← List.append_assoc]
      rfl

/-- The bits of the opcode are those that some sweep has shown. -/
lemma mem_opcodeBits_recordAll {m : FieldMap} {rs : List (Nat × Sweep)}
    {b : Nat} :
    b ∈ (m.recordAll rs).opcodeBits ↔
      b ∈ m.opcodeBits ∨ ∃ r ∈ rs, b ∈ r.2.opcodeBits := by
  induction rs generalizing m with
  | nil => simp
  | cons r rs ih =>
      have hr : b ∈ (m.record r.1 r.2).opcodeBits ↔
          b ∈ m.opcodeBits ∨ b ∈ r.2.opcodeBits :=
        SortedSet.mem_union
      rw [recordAll_cons, ih, hr, or_assoc]
      simp only [List.mem_cons, exists_eq_or_imp]

/-- A line has the modifier bits of the last sweep under it that has shown
any. -/
lemma modifierBitsOf_recordAll (m : FieldMap) (rs : List (Nat × Sweep))
    (x : Nat) :
    (m.recordAll rs).modifierBitsOf x =
      (rs.reverse.findSome? fun r =>
        if r.1 = x then shown r.2 else none).or (m.modifierBitsOf x) := by
  induction rs generalizing m with
  | nil => simp
  | cons r rs ih =>
      rw [recordAll_cons, ih, modifierBitsOf_record, List.reverse_cons,
        List.findSome?_append, Option.or_assoc]
      simp [List.findSome?_singleton]

/-- The sweeps under another line do not matter for a line. -/
lemma modifierBitsOf_recordAll_filter (m : FieldMap)
    (rs : List (Nat × Sweep)) {x i : Nat} (hx : x ≠ i) :
    (m.recordAll (rs.filter (·.1 ≠ i))).modifierBitsOf x =
      (m.recordAll rs).modifierBitsOf x := by
  rw [modifierBitsOf_recordAll, modifierBitsOf_recordAll]
  congr 1
  induction rs with
  | nil => rfl
  | cons r rs ih =>
      rw [List.filter_cons, List.reverse_cons, List.findSome?_append, ← ih]
      by_cases hr : r.1 = i
      · simp [hr, hx.symm]
      · simp [hr, List.findSome?_append]

/-- If no line is recorded twice, a line has the modifier bits that its own
sweep has shown. -/
lemma modifierBitsOf_recordAll_iff {rs : List (Nat × Sweep)}
    (h : (rs.map (·.1)).Nodup) {x : Nat} {bits : ModifierBits} :
    ((∅ : FieldMap).recordAll rs).modifierBitsOf x = some bits ↔
      ∃ r ∈ rs, r.1 = x ∧ shown r.2 = some bits := by
  have hempty : (∅ : FieldMap).modifierBitsOf x = none := rfl
  rw [modifierBitsOf_recordAll, hempty, Option.or_none]
  constructor
  · intro hf
    obtain ⟨r, hr, hs⟩ := List.exists_of_findSome?_eq_some hf
    by_cases hx : r.1 = x
    · rw [if_pos hx] at hs
      exact ⟨r, List.mem_reverse.1 hr, hx, hs⟩
    · rw [if_neg hx] at hs
      cases hs
  · rintro ⟨r, hr, hx, hs⟩
    induction rs with
    | nil => simp at hr
    | cons q rs ih =>
        rw [List.map_cons, List.nodup_cons] at h
        rw [List.reverse_cons, List.findSome?_append,
          List.findSome?_singleton]
        rcases List.mem_cons.1 hr with rfl | hr
        · -- no later sweep stands under the same line
          have hnone : (rs.reverse.findSome? fun r =>
              if r.1 = x then shown r.2 else none) = none := by
            rw [List.findSome?_eq_none_iff]
            intro q hq
            rw [if_neg]
            rintro rfl
            exact h.1 (hx ▸ List.mem_map_of_mem (List.mem_reverse.1 hq))
          rw [hnone, if_pos hx, hs]
          rfl
        · rw [ih h.2 hr]
          rfl

/-- If lines are recorded in ascending order, the entries stay in the order of
the sweeps. -/
lemma entries_recordAll {rs : List (Nat × Sweep)}
    (h : rs.Pairwise fun a b => a.1 < b.1) :
    ((∅ : FieldMap).recordAll rs).modifierBits.entries =
      rs.filterMap fun r => (shown r.2).map fun bits => (r.1, bits) := by
  induction rs using List.reverseRecOn with
  | nil => rfl
  | append_singleton rs r ih =>
      obtain ⟨hrs, -, hlast⟩ := List.pairwise_append.1 h
      have hstep : (∅ : FieldMap).recordAll (rs ++ [r]) =
          ((∅ : FieldMap).recordAll rs).record r.1 r.2 := by
        rw [recordAll, List.foldl_append]
        rfl
      have hlt : ∀ e ∈ ((∅ : FieldMap).recordAll rs).modifierBits.entries,
          compare e.1 r.1 = .lt := by
        intro e he
        rw [ih hrs, List.mem_filterMap] at he
        obtain ⟨q, hq, he⟩ := he
        obtain ⟨bits, -, rfl⟩ := Option.map_eq_some_iff.1 he
        exact Nat.compare_eq_lt.2 (hlast q hq r (List.mem_singleton_self r))
      rw [hstep, record, List.filterMap_append, ← ih hrs]
      by_cases hs : r.2.modifierBits.isEmpty = true
      · simp [shown, hs]
      · have hshown : shown r.2 = some ⟨r.2.baseline.opcode,
            r.2.baseline.encoding, r.2.modifierBits.toList⟩ := if_neg hs
        rw [List.filterMap_cons, hshown, List.filterMap_nil]
        simp only [hs, if_false, Bool.false_eq_true]
        exact SortedMap.place_eq_append hlt _

end FieldMap

/-! ### The modifier bits of one sweep -/

/-- The modifier bits that a sweep has shown, in ascending order, with the
instruction that it was about. -/
structure ModifierBits.Of (bits : ModifierBits) (s : Sweep) : Prop where
  opcode : bits.opcode = s.baseline.opcode
  encoding : bits.encoding = s.baseline.encoding
  ascending : bits.positions.Pairwise (· < ·)
  mem_positions : ∀ b, b ∈ bits.positions ↔ b ∈ s.modifierBits

/-- There is one way to list the bits in ascending order. -/
lemma ModifierBits.of_iff {bits : ModifierBits} {s : Sweep} :
    bits.Of s ↔ bits =
      ⟨s.baseline.opcode, s.baseline.encoding, s.modifierBits.toList⟩ := by
  constructor
  · rintro ⟨hopcode, hencoding, hascending, hmem⟩
    have hpositions : bits.positions = s.modifierBits.toList :=
      SortedSet.eq_of_pairwise_of_mem_iff
        (hascending.imp fun hlt => Nat.compare_eq_lt.2 hlt)
        s.modifierBits.ascending hmem
    cases bits
    simp_all
  · rintro rfl
    exact ⟨rfl, rfl, s.modifierBits.ascending.imp Nat.compare_eq_lt.1,
      fun _ => Iff.rfl⟩

namespace FieldMap

lemma shown_eq_some_iff {s : Sweep} {bits : ModifierBits} :
    shown s = some bits ↔ s.modifierBits.isEmpty = false ∧ bits.Of s := by
  rw [shown, ModifierBits.of_iff]
  cases s.modifierBits.isEmpty with
  | true => simp
  | false => simp [eq_comm]

/-- Of its own line a sweep says what it has shown, if anything; nothing
changes otherwise. -/
lemma modifierBitsOf_record_iff {m : FieldMap} {line x : Nat} {s : Sweep}
    {bits : ModifierBits} :
    (m.record line s).modifierBitsOf x = some bits ↔
      (line = x ∧ s.modifierBits.isEmpty = false ∧ bits.Of s) ∨
      ((line = x → s.modifierBits.isEmpty = true) ∧
        m.modifierBitsOf x = some bits) := by
  rw [modifierBitsOf_record, ← shown_eq_some_iff]
  by_cases hx : line = x
  · rw [if_pos hx, shown]
    cases s.modifierBits.isEmpty <;> simp [hx]
  · simp [hx]

/-! ### The sweep that counts for a line -/

/-- Of the sweeps under a line, the last one that has shown modifier bits. -/
def LastShown (rs : List (Nat × Sweep)) (line : Nat) (s : Sweep) : Prop :=
  ∃ before after, rs = before ++ (line, s) :: after ∧
    s.modifierBits.isEmpty = false ∧
    ∀ r ∈ after, r.1 = line → r.2.modifierBits.isEmpty = true

/-- One more sweep counts for its line if it has shown modifier bits; for
any other line the same sweep counts as before. -/
lemma lastShown_append_singleton {rs : List (Nat × Sweep)} {r : Nat × Sweep}
    {line : Nat} {s : Sweep} :
    LastShown (rs ++ [r]) line s ↔
      (r = (line, s) ∧ s.modifierBits.isEmpty = false) ∨
      ((r.1 = line → r.2.modifierBits.isEmpty = true) ∧
        LastShown rs line s) := by
  constructor
  · rintro ⟨before, after, hrs, hs, hafter⟩
    rcases List.eq_nil_or_concat after with rfl | ⟨after, q, rfl⟩
    · obtain ⟨-, hr⟩ := List.append_inj' hrs rfl
      exact .inl ⟨List.singleton_inj.1 hr, hs⟩
    · rw [List.concat_eq_append, ← List.cons_append, ← List.append_assoc]
        at hrs
      obtain ⟨rfl, hr⟩ := List.append_inj' hrs rfl
      obtain rfl := List.singleton_inj.1 hr
      exact .inr ⟨hafter r (by simp), before, after, rfl, hs,
        fun q hq => hafter q (by simp [hq])⟩
  · rintro (⟨rfl, hs⟩ | ⟨hr, before, after, rfl, hs, hafter⟩)
    · exact ⟨rs, [], rfl, hs, by simp⟩
    · refine ⟨before, after ++ [r], by simp, hs, fun q hq => ?_⟩
      rcases List.mem_append.1 hq with hq | hq
      · exact hafter q hq
      · rw [List.mem_singleton.1 hq]
        exact hr

/-- No sweep counts for a line if none under it has shown modifier bits. -/
lemma exists_lastShown_iff {rs : List (Nat × Sweep)} {line : Nat} :
    (∃ s, LastShown rs line s) ↔
      ∃ r ∈ rs, r.1 = line ∧ r.2.modifierBits.isEmpty = false := by
  induction rs using List.reverseRecOn with
  | nil => simp [LastShown]
  | append_singleton rs r ih =>
      simp only [lastShown_append_singleton, exists_or, List.mem_append,
        or_and_right, List.mem_singleton, exists_eq_left, exists_and_left, ih]
      obtain ⟨n, t⟩ := r
      by_cases hn : n = line
      · cases ht : t.modifierBits.isEmpty <;> simp [hn, ht]
      · simp [hn]

/-! ### One more sweep -/

/-- What is known is what sweeps have shown, recorded in this order. -/
structure Collects (rs : List (Nat × Sweep)) (m : FieldMap) : Prop where
  mem_opcodeBits : ∀ b, b ∈ m.opcodeBits ↔ ∃ r ∈ rs, b ∈ r.2.opcodeBits
  opcodeChanges : m.opcodeChanges = rs.flatMap fun r => r.2.opcodeChanges
  modifierBitsOf : ∀ line bits, m.modifierBitsOf line = some bits ↔
    ∃ s, LastShown rs line s ∧ bits.Of s

/-- Nothing is known of a line if no sweep under it has shown modifier
bits. -/
lemma Collects.modifierBitsOf_eq_none_iff {rs : List (Nat × Sweep)}
    {m : FieldMap} (h : Collects rs m) (line : Nat) :
    m.modifierBitsOf line = none ↔
      ∀ r ∈ rs, r.1 = line → r.2.modifierBits.isEmpty = true := by
  have hex : (∃ bits, m.modifierBitsOf line = some bits) ↔
      ∃ s, LastShown rs line s := by
    simp only [h.modifierBitsOf]
    exact ⟨fun ⟨_, s, hs, _⟩ => ⟨s, hs⟩,
      fun ⟨s, hs⟩ => ⟨_, s, hs, ModifierBits.of_iff.2 rfl⟩⟩
  rw [exists_lastShown_iff, ← Option.isSome_iff_exists] at hex
  rw [← Option.not_isSome_iff_eq_none, hex]
  simp only [not_exists, not_and, Bool.not_eq_false]

/-- Nothing is known before the first sweep. -/
lemma collects_nil : Collects [] ∅ where
  mem_opcodeBits := by
    intro b
    exact iff_of_false (SortedSet.not_mem_empty b) (by simp)
  opcodeChanges := rfl
  modifierBitsOf := by
    intro line bits
    exact iff_of_false (Option.some_ne_none bits).symm
      (by simp [LastShown])

/-- Recording a sweep collects it, too. -/
lemma Collects.record {rs : List (Nat × Sweep)} {m : FieldMap}
    (h : Collects rs m) (r : Nat × Sweep) :
    Collects (rs ++ [r]) (m.record r.1 r.2) where
  mem_opcodeBits := by
    intro b
    have hunion : b ∈ (m.record r.1 r.2).opcodeBits ↔
        b ∈ m.opcodeBits ∨ b ∈ r.2.opcodeBits := SortedSet.mem_union
    rw [hunion, h.mem_opcodeBits]
    simp [or_and_right, exists_or]
  opcodeChanges := by
    rw [List.flatMap_append, List.flatMap_singleton, ← h.opcodeChanges]
    rfl
  modifierBitsOf := by
    intro line bits
    rw [modifierBitsOf_record_iff, h.modifierBitsOf]
    simp only [lastShown_append_singleton, or_and_right, exists_or, and_assoc,
      exists_and_left]
    refine or_congr ?_ Iff.rfl
    obtain ⟨n, t⟩ := r
    simp only [Prod.mk.injEq, and_assoc, exists_and_left, exists_eq_left']

/-- How what is known may change by a sweep under a line: bits of the opcode,
lines and changes of mnemonic are added, these at the end, and nothing changes
for any other line. -/
structure Grows (line : Nat) (m m' : FieldMap) : Prop where
  opcodeBits : ∀ b ∈ m.opcodeBits, b ∈ m'.opcodeBits
  opcodeChanges : m.opcodeChanges <+: m'.opcodeChanges
  lines : m.modifierBits.keys ⊆ m'.modifierBits.keys
  others : ∀ x, x ≠ line → m'.modifierBitsOf x = m.modifierBitsOf x

/-- Recording a sweep only adds to what is known. -/
lemma grows_record (m : FieldMap) (line : Nat) (s : Sweep) :
    Grows line m (m.record line s) where
  opcodeBits := fun _ hb => SortedSet.mem_union.2 (.inl hb)
  opcodeChanges := List.prefix_append _ _
  lines := by
    intro x hx
    rw [SortedMap.mem_keys_iff] at hx ⊢
    rw [← FieldMap.modifierBitsOf, modifierBitsOf_record, Option.isSome_or,
      Bool.or_eq_true]
    exact .inr hx
  others := by
    intro x hx
    rw [modifierBitsOf_record, if_neg hx.symm, Option.none_or]

/-! ### Sweeps one after another -/

/-- Sweeps recorded one after another are collected. -/
lemma collects_recordAll_empty (rs : List (Nat × Sweep)) :
    Collects rs ((∅ : FieldMap).recordAll rs) := by
  induction rs using List.reverseRecOn with
  | nil => exact collects_nil
  | append_singleton rs r ih =>
      rw [recordAll, List.foldl_append]
      exact ih.record r

/-- The order of sweeps does not matter for the bits of the opcode. -/
lemma opcodeBits_recordAll_perm {rs rs' : List (Nat × Sweep)}
    (h : rs'.Perm rs) :
    ((∅ : FieldMap).recordAll rs').opcodeBits =
      ((∅ : FieldMap).recordAll rs).opcodeBits := by
  refine SortedSet.ext_mem fun b => ?_
  rw [mem_opcodeBits_recordAll, mem_opcodeBits_recordAll]
  simp only [h.mem_iff]

/-- Nor does it for the modifier bits, if no line is recorded twice. -/
lemma modifierBits_recordAll_perm {rs rs' : List (Nat × Sweep)}
    (hlines : (rs.map (·.1)).Nodup) (h : rs'.Perm rs) :
    ((∅ : FieldMap).recordAll rs').modifierBits =
      ((∅ : FieldMap).recordAll rs).modifierBits := by
  have hlines' : (rs'.map (·.1)).Nodup := (h.map _).nodup_iff.2 hlines
  refine SortedMap.ext_find? fun x => Option.ext fun bits => ?_
  calc ((∅ : FieldMap).recordAll rs').modifierBitsOf x = some bits
      ↔ ∃ r ∈ rs', r.1 = x ∧ shown r.2 = some bits :=
        modifierBitsOf_recordAll_iff hlines'
    _ ↔ ∃ r ∈ rs, r.1 = x ∧ shown r.2 = some bits := by
        simp only [h.mem_iff]
    _ ↔ ((∅ : FieldMap).recordAll rs).modifierBitsOf x = some bits :=
        (modifierBitsOf_recordAll_iff hlines).symm

/-- Whatever sweeps are recorded under whatever lines, the bits of the opcode
are the union of theirs, and the changes of mnemonic are theirs in the order
of the records. A line has the opcode, the encoding and the ascending modifier
bits of the last sweep under it that has shown some, and none if there is no
such sweep. A record only adds to what was known: bits of the opcode, lines,
and changes at the end; it leaves all other lines alone. Under distinct lines,
the bits do not depend on the order of the records. -/
theorem collects_recordAll (rs : List (Nat × Sweep)) :
    let m := (∅ : FieldMap).recordAll rs
    Collects rs m ∧
    (∀ line, m.modifierBitsOf line = none ↔
      ∀ r ∈ rs, r.1 = line → r.2.modifierBits.isEmpty = true) ∧
    (∀ line s, Grows line m (m.record line s)) ∧
    ((rs.map (·.1)).Nodup → ∀ rs', rs'.Perm rs →
      ((∅ : FieldMap).recordAll rs').opcodeBits = m.opcodeBits ∧
      ((∅ : FieldMap).recordAll rs').modifierBits = m.modifierBits) := by
  intro m
  have hm : Collects rs m := collects_recordAll_empty rs
  exact ⟨hm, hm.modifierBitsOf_eq_none_iff, grows_record m,
    fun hlines rs' hperm => ⟨opcodeBits_recordAll_perm hperm,
      modifierBits_recordAll_perm hlines hperm⟩⟩

/-- A sweep of an instruction without operands, from verdicts on its lowest
bits. -/
def bareSweep (opcode : String) (verdicts : List Verdict) : Sweep :=
  .ofVerdicts ⟨none, opcode, ∅, [], 0#64, 2⟩ verdicts false

/-- Four sweeps, three of them under one line. -/
def repeatedLine : List (Nat × Sweep) :=
  [(2, bareSweep "F2F" [.modifier, .unclassified, .modifier]),
    (1, bareSweep "MOV" [.opcode "ADD", .modifier]),
    (2, bareSweep "FADD" [.unclassified, .modifier]),
    (2, bareSweep "FMUL" [.opcode "NOP", .invalid])]

/-- Of three sweeps under line 2 the second counts, as the third has shown no
modifier bits. The first two of all four are about distinct lines, and may
change places. -/
theorem collects_recordAll_repeatedLine :
    ((∅ : FieldMap).recordAll repeatedLine).modifierBitsOf 2 =
      some ⟨"FADD", 0#64, [1]⟩ ∧
    ((repeatedLine.take 2).map (·.1)).Nodup ∧
    ((∅ : FieldMap).recordAll (repeatedLine.take 2).reverse).modifierBits =
      ((∅ : FieldMap).recordAll (repeatedLine.take 2)).modifierBits := by
  have hlines : ((repeatedLine.take 2).map (·.1)).Nodup := by decide
  obtain ⟨hall, -, -, -⟩ := collects_recordAll repeatedLine
  obtain ⟨-, -, -, horder⟩ := collects_recordAll (repeatedLine.take 2)
  refine ⟨(hall.modifierBitsOf 2 _).2 ⟨bareSweep "FADD" [.unclassified,
    .modifier], ?_, ModifierBits.of_iff.2 (by decide)⟩, hlines,
    (horder hlines _ (List.reverse_perm _)).2⟩
  exact ⟨repeatedLine.take 2, repeatedLine.drop 3, rfl, rfl, by decide⟩

end FieldMap

end BitProbe
