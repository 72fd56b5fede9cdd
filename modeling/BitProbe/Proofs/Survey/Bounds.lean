import BitProbe.Proofs.Report.Rows
import BitProbe.Proofs.Survey.Checked

/-!
The bounds of a survey.

A survey keeps within words, whatever the oracle answers, in whatever order it
is asked, and with whatever limit on the modifier bits, also one that is refused
when settings are loaded. Every shift is by less than the width of a word and
every place is there, in the survey and in each format of its report.

Three bounds meet in a decode table. Its positions are bits of a word, each
listed once, so there are at most sixty-four of them. It is enumerated only if
there are at most `DecodeTable.positionsCeiling`, so the number of assignments
fits a word. What is entered is an assignment of the positions. With all bits of
a word the number of assignments does not fit, and is only shown as a power.

* `DecodeTable.WithinWord`: a table that keeps within words;
* `DecodeTable.withinWord_runIn`: every table of positions of a word does;
* `Checked.amounts_fit`: a survey and its formats do.
-/

namespace BitProbe

variable {σ : Type}

open Enumeration (Order)

/-! ### Tables -/

/-- A decode table that keeps within words. -/
structure DecodeTable.WithinWord (t : DecodeTable) : Prop where
  /-- The positions ascend, so none is listed twice. -/
  ascending : t.positions.Pairwise (· < ·)
  /-- They are bits of a word. -/
  lt_width : ∀ p ∈ t.positions, p < 64
  /-- Only few of them are enumerated. -/
  few : t.skipped = false → t.positions.length ≤ 32
  /-- An assignment that is entered has no bits beyond the positions. -/
  key : ∀ v ∈ t.entries.keys, v < 2 ^ t.positions.length
  /-- So it is written with one digit for each of them. -/
  label : ∀ v ∈ t.entries.keys, (t.label v).length = t.positions.length
  /-- How many assignments there are is what a checked shift says. -/
  space : t.space = Checked.space t.positions
  /-- With all bits of a word this is stuck; nothing is enumerated, and the
  number is shown as a power. -/
  fullWidth : t.positions.length = 64 →
    t.space = none ∧ t.skipped = true ∧ t.entries = ∅ ∧
    t.plainLines = [modifierLine t.line t.opcode t.positions,
      "  enumeration skipped (2^64 assignments)"]

namespace DecodeTable

section RunIn

variable (c : Criteria) (maxBits : Nat) (o : Oracle σ) (order : Order)
  (line : Nat) (opcode : String) (encoding : Word) (positions : List Nat)
  (s : σ)

/-- A table is skipped exactly if it has too many positions. -/
lemma skipped_runIn :
    (runIn c maxBits o order line opcode encoding positions s).1.skipped =
      decide (min maxBits positionsCeiling <
        (SortedSet.ofList positions).toList.length) := by
  rw [runIn]
  dsimp only
  split
  case isTrue h => exact (decide_eq_true h).symm
  case isFalse h => exact (decide_eq_false h).symm

variable {c maxBits o order line opcode encoding positions s}

/-- Nothing is entered into a table that is skipped. -/
lemma entries_runIn_of_skipped
    (h : (runIn c maxBits o order line opcode encoding positions
      s).1.skipped = true) :
    (runIn c maxBits o order line opcode encoding positions
      s).1.entries = ∅ := by
  rw [runIn] at h ⊢
  dsimp only at h ⊢
  split at h
  case isTrue hmany =>
    rw [if_pos hmany]
    rfl
  case isFalse => cases h

/-- What is entered into a table are assignments of its positions. -/
lemma lt_of_mem_keys_runIn {v : Nat}
    (h : v ∈ (runIn c maxBits o order line opcode encoding positions
      s).1.entries.keys) :
    v < 2 ^ (runIn c maxBits o order line opcode encoding positions
      s).1.positions.length := by
  rw [SortedMap.mem_keys_iff] at h
  rw [runIn] at h ⊢
  dsimp only at h ⊢
  split at h
  case isTrue => cases h
  case isFalse hfew =>
    rw [if_neg hfew]
    rw [find?_entriesFrom, if_pos (Nat.zero_le v), Nat.sub_zero] at h
    -- an answer with the number of the assignment has entered something
    obtain ⟨text, htext⟩ := Option.isSome_iff_exists.1 h
    obtain ⟨a, ha, -⟩ := Option.bind_eq_some_iff.1 htext
    have hlt := (List.getElem?_eq_some_iff.1 ha).1
    rwa [Oracle.length_results_askIn, length_variants] at hlt

end RunIn

/-- A table that is skipped with all bits of a word shows the number of its
assignments as a power. -/
lemma plainLines_of_fullWidth {t : DecodeTable}
    (hlength : t.positions.length = 64) (hskip : t.skipped = true) :
    t.plainLines = [modifierLine t.line t.opcode t.positions,
      "  enumeration skipped (2^64 assignments)"] := by
  have hspace : t.spaceText = "2^64" := by
    rw [spaceText, space, hlength]
    decide
  have htext : "  enumeration skipped (" ++ "2^64" ++ " assignments)" =
      "  enumeration skipped (2^64 assignments)" := by
    decide
  rw [plainLines, if_pos hskip, hspace, htext]

/-- A table of positions of a word keeps within words, however large the
limit on them is. -/
theorem withinWord_runIn (c : Criteria) (maxBits : Nat) (o : Oracle σ)
    (order : Order) (line : Nat) (opcode : String) (encoding : Word)
    {positions : List Nat} (hlt : ∀ p ∈ positions, p < 64) (s : σ) :
    (runIn c maxBits o order line opcode encoding positions
      s).1.WithinWord := by
  have hpositions := (head_runIn c maxBits o line opcode encoding positions s
    order).2.2.2
  have hskipped := skipped_runIn c maxBits o order line opcode encoding
    positions s
  set t := (runIn c maxBits o order line opcode encoding positions s).1
  rw [← hpositions] at hskipped
  have hkey : ∀ v ∈ t.entries.keys, v < 2 ^ t.positions.length :=
    fun v hv => lt_of_mem_keys_runIn hv
  -- the smaller of the two limits is at most the ceiling
  have hmany : t.positions.length = 64 → t.skipped = true := fun hlength => by
    rw [hskipped, hlength, decide_eq_true_iff]
    exact Nat.lt_of_le_of_lt (Nat.min_le_right _ _) (by decide)
  constructor
  case ascending =>
    rw [hpositions]
    exact (SortedSet.ofList positions).ascending.imp Nat.compare_eq_lt.1
  case lt_width =>
    rw [hpositions]
    exact fun p hp => hlt p (SortedSet.mem_ofList.1 hp)
  case few =>
    intro hskip
    rw [hskipped, decide_eq_false_iff_not, Nat.not_lt] at hskip
    exact Nat.le_trans hskip (Nat.min_le_right _ _)
  case key => exact hkey
  case label => exact fun v hv => length_label t (hkey v hv)
  case space => exact (Checked.space_eq t).symm
  case fullWidth =>
    intro hlength
    have hskip := hmany hlength
    refine ⟨?_, hskip, entries_runIn_of_skipped hskip,
      plainLines_of_fullWidth hlength hskip⟩
    rw [DecodeTable.space, hlength]
    rfl

/-- No table that keeps within words has more positions than a word. -/
lemma WithinWord.length_le {t : DecodeTable} (h : t.WithinWord) :
    t.positions.length ≤ 64 :=
  Word.length_le_of_nodup (h.ascending.imp Nat.ne_of_lt) h.lt_width

end DecodeTable

/-! ### Surveys -/

namespace Survey

variable {p : Plan} {g : Goal} {o : Oracle σ}

/-- What is enumerated after a sweep keeps within words. -/
lemma withinWord_enumerateIn {order : Order} {line : Nat} {sweep : Sweep}
    {s : σ} {t : DecodeTable} (hs : sweep.Consistent p.criteria)
    (ht : (enumerateIn p g o order line sweep s).1 = some t) :
    g = .modifiers ∧ t.WithinWord := by
  rw [enumerateIn] at ht
  split at ht
  case isTrue h =>
    cases ht
    refine ⟨h.1, DecodeTable.withinWord_runIn _ _ _ _ _ _ _ ?_ _⟩
    rw [hs.modifierBits]
    exact fun b hb => hs.lt_of_mem_idxsOf hb
  case isFalse => cases ht

/-- So do all tables of a report, which is then about modifiers. -/
lemma withinWord_of_mem_tables {orders : Nat → Examination.Orders}
    {l : Listing} {s : σ} {t : DecodeTable}
    (ht : t ∈ (runIn p g o orders l s).1.tables) :
    g = .modifiers ∧ t.WithinWord := by
  obtain ⟨x, hx, hxt⟩ := List.mem_filterMap.1 ht
  obtain ⟨e, s, rfl⟩ := exists_of_mem_examineAllIn hx
  exact withinWord_enumerateIn (Sweep.consistent_runIn _ _ _ _ _) hxt

end Survey

namespace Checked

/-- A survey never shifts by the width of a word or more, and never looks at a
place that is not there. By checked steps it comes to the same report, in
whatever orders the oracle is asked, and so it does if the words are asked about
one after another. By checked steps the report comes to the same text in every
format. All its decode tables keep within words, and one with all bits of a word
stands in the plain text as skipped, with the number of its assignments as a
power. -/
theorem amounts_fit (p : Survey.Plan) (g : Goal) (o : Oracle σ)
    (orders : Nat → Survey.Examination.Orders) (l : Listing) (s : σ) :
    let r := (Survey.runIn p g o orders l s).1
    survey p g o orders l s = some (Survey.runIn p g o orders l s) ∧
    survey p g o (fun _ => ⟨.ascending, .ascending⟩) l s =
      some (Survey.run p g o l s) ∧
    (∀ f, render r f = some (r.render f)) ∧
    ∀ t ∈ r.tables, t.WithinWord ∧
      (t.positions.length = 64 → t.plainLines <:+: r.plainLines) := by
  intro r
  have hwithin : ∀ t ∈ r.tables, g = .modifiers ∧ t.WithinWord :=
    fun t ht => Survey.withinWord_of_mem_tables ht
  refine ⟨survey_eq p g o orders l s, ?_,
    render_eq fun t ht => (hwithin t ht).2.length_le,
    fun t ht => ⟨(hwithin t ht).2, fun _ =>
      Report.infix_plainLines (hwithin t ht).1 ht⟩⟩
  rw [survey_eq, Survey.runIn_ascending]

/-! ### All bits of a word -/

/-- Settings with the largest limit on the modifier bits that can be given. -/
def unlimited : Settings :=
  { maxModifierBits := 0xFFFFFFFFFFFFFFFF }

/-- With such a limit settings are refused when they are loaded. -/
example : unlimited.validate =
    .error (.settings (.tooManyBits (2 ^ 64 - 1) 32)) := by
  rfl

/-- An oracle for which every bit is a modifier bit of an instruction without
modifiers. -/
def alwaysModified (_ : Word) : Answer :=
  .ok "\nMOV.X R0 R1 /*0x00*/"

/-- A listing of one instruction without modifiers. -/
def unmodified : Listing :=
  ⟨[⟨1, "MOV R0 R1 /*0x00*/",
    ⟨none, "MOV", ∅, ["R0", "R1"], 0#64, 4⟩⟩], []⟩

/-- A table with all bits of a word does occur, and its number of assignments
is shown as a power. -/
theorem amounts_fit_unlimited :
    let p := Survey.Plan.ofSettings unlimited .kepler
    let r := (Survey.run p .modifiers (.ofFunction alwaysModified) unmodified
      ()).1
    (∃ t ∈ r.tables, t.positions = List.range 64 ∧ t.skipped = true) ∧
    "  enumeration skipped (2^64 assignments)" ∈ r.plainLines ∧
    render r .plain = some (.ok r.plain) := by
  intro p r
  obtain ⟨-, -, hrender, htables⟩ := amounts_fit p .modifiers
    (.ofFunction alwaysModified) (fun _ => ⟨.ascending, .ascending⟩)
    unmodified ()
  rw [Survey.runIn_ascending] at hrender htables
  have ht : (⟨1, "MOV", 0#64, List.range 64, 0, ∅, true, false⟩ :
      DecodeTable) ∈ r.tables := by
    decide +kernel
  obtain ⟨hwithin, hlines⟩ := htables _ ht
  obtain ⟨-, hskip, -, hplain⟩ := hwithin.fullWidth (by decide)
  refine ⟨⟨_, ht, rfl, hskip⟩, ?_, hrender .plain⟩
  refine (hlines (by decide)).subset ?_
  rw [hplain]
  exact List.mem_cons_of_mem _ (List.mem_singleton_self _)

end Checked

end BitProbe
