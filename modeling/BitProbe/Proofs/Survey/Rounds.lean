import BitProbe.Proofs.Survey.Examinations
import BitProbe.Proofs.Sweep.Answers

/-!
The calls of a survey.

A survey asks about its entries in rounds, one for each entry. A round begins
with the mutants of the entry's word. If modifiers are looked for, and the
sweep was not cut short and has shown some modifier bits, but not too many,
the round goes on with the variants of the word. Each of the two is a series
of calls, which a process failure ends; the next round begins all the same.

* `Survey.IsEnumerated`, `Survey.followUps`: when the variants are asked
  about, and which words these are;
* `Survey.Round`, `Survey.Round.Sound`: an examination with its calls, and how
  they belong together;
* `Survey.rounds`: the rounds that an oracle leads to;
* `Survey.examineAll_transcribed`: they make up the transcript;
* `Survey.sound_of_mem_rounds`: and are as they should be;
* `Survey.transcript_run`: the transcript of a survey.
-/

namespace BitProbe

variable {σ : Type}

/-! ### Tables with a transcript -/

namespace DecodeTable

/-- The words that an enumeration asks about, in order. -/
def questions (maxBits : Nat) (encoding : Word) (positions : List Nat) :
    List Word :=
  let ps := (SortedSet.ofList positions).toList
  if min maxBits positionsCeiling < ps.length then []
  else variants encoding ps

/-- A word always has variants, if only itself. -/
lemma variants_ne_nil (encoding : Word) (positions : List Nat) :
    variants encoding positions ≠ [] := by
  rw [ne_eq, ← List.length_eq_zero_iff, length_variants]
  exact Nat.pos_iff_ne_zero.1 (Nat.two_pow_pos _)

section Run

variable (c : Criteria) (maxBits : Nat) (o : Oracle σ) (line : Nat)
  (opcode : String) (encoding : Word) (positions : List Nat)

/-- An enumeration adds the calls about its questions to a transcript. -/
lemma run_transcribed (earlier : List Call) (s : σ) :
    run c maxBits o.transcribed line opcode encoding positions (earlier, s) =
      ((run c maxBits o line opcode encoding positions s).1,
        (earlier ++ o.calls (questions maxBits encoding positions) s,
          (run c maxBits o line opcode encoding positions s).2)) := by
  by_cases h : min maxBits positionsCeiling <
      (SortedSet.ofList positions).toList.length
  · have hrun : ∀ {τ : Type} (o : Oracle τ) (s : τ),
        run c maxBits o line opcode encoding positions s =
          ({ start line opcode encoding positions with skipped := true }, s) :=
      fun _ _ => if_pos h
    rw [hrun, hrun, questions, if_pos h, Oracle.calls_nil, List.append_nil]
  · have hrun : ∀ {τ : Type} (o : Oracle τ) (s : τ),
        run c maxBits o line opcode encoding positions s =
          let words := variants encoding (SortedSet.ofList positions).toList
          ((start line opcode encoding positions).ofAnswers c
            (Sweep.padded words.length (o.ask words s).1),
            (o.ask words s).2) :=
      fun _ _ => if_neg h
    rw [hrun, hrun, questions, if_neg h]
    dsimp only
    rw [Oracle.ask_transcribed]

/-- The questions of a table are counted. -/
lemma queries_run (s : σ) :
    (run c maxBits o line opcode encoding positions s).1.queries =
      (o.calls (questions maxBits encoding positions) s).length := by
  rcases Nat.lt_or_ge (min maxBits positionsCeiling)
      (SortedSet.ofList positions).toList.length with h | h
  · rw [run_of_lt c maxBits o line opcode encoding positions s h, questions,
      if_pos h]
    rfl
  · rw [run_of_le c maxBits o line opcode encoding positions s h, questions,
      if_neg (Nat.not_lt.2 h), Oracle.length_calls]
    exact countP_padded _ _

/-- A table is skipped exactly if it has too many positions. -/
lemma skipped_run_iff (s : σ) :
    (run c maxBits o line opcode encoding positions s).1.skipped = true ↔
      min maxBits positionsCeiling <
        (SortedSet.ofList positions).toList.length := by
  obtain ⟨-, -, -, hps⟩ :=
    head_run c maxBits o line opcode encoding positions s
  rw [← hps]
  exact (fits_run c maxBits o line opcode encoding positions s).skipped_iff

end Run

end DecodeTable

namespace Survey

/-! ### Follow-ups -/

/-- Whether a sweep is followed by questions about the variants of its
word. -/
def IsEnumerated (p : Plan) (g : Goal) (sweep : Sweep) : Prop :=
  g = .modifiers ∧ sweep.aborted = false ∧
    1 ≤ (sweep.classes.idxsOf .modifier).length ∧
    (sweep.classes.idxsOf .modifier).length ≤ min p.maxBits 32

instance (p : Plan) (g : Goal) (sweep : Sweep) :
    Decidable (IsEnumerated p g sweep) :=
  inferInstanceAs (Decidable (_ ∧ _ ∧ _ ∧ _))

/-- The words that are asked about after a sweep. -/
def followUps (p : Plan) (g : Goal) (sweep : Sweep) : List Word :=
  if IsEnumerated p g sweep then
    DecodeTable.variants sweep.baseline.encoding
      (sweep.classes.idxsOf .modifier)
  else []

/-- The places of a class are in order as they are. -/
lemma toList_ofList_idxsOf (cls : BitClass) (classes : List BitClass) :
    (SortedSet.ofList (classes.idxsOf cls)).toList = classes.idxsOf cls :=
  SortedSet.toList_ofList
    (pairwise_compare_of_pairwise_lt List.pairwise_idxsOf)

/-- A sweep that leads to a table is followed by the questions of this
table. -/
lemma followUps_of_enumerates (p : Plan) {g : Goal} {sweep : Sweep}
    (h : enumerates g sweep) :
    followUps p g sweep = DecodeTable.questions p.maxBits
      sweep.baseline.encoding (sweep.classes.idxsOf .modifier) := by
  obtain ⟨hg, hne, hab⟩ := h
  have hpos := List.length_pos_iff.2 hne
  rw [followUps, DecodeTable.questions, toList_ofList_idxsOf]
  by_cases hle : (sweep.classes.idxsOf .modifier).length ≤ min p.maxBits 32
  · rw [if_pos ⟨hg, hab, hpos, hle⟩]
    exact (if_neg (Nat.not_lt.2 hle)).symm
  · rw [if_neg fun h => hle h.2.2.2]
    exact (if_pos (Nat.not_le.1 hle)).symm

/-- Any other sweep is not followed by questions. -/
lemma followUps_of_not_enumerates (p : Plan) {g : Goal} {sweep : Sweep}
    (h : ¬ enumerates g sweep) : followUps p g sweep = [] := by
  rw [followUps, if_neg]
  rintro ⟨hg, hab, hpos, -⟩
  exact h ⟨hg, List.length_pos_iff.1 hpos, hab⟩

/-- What follows a sweep adds the calls about its follow-ups to a
transcript. -/
lemma enumerate_transcribed {p : Plan} (g : Goal) (o : Oracle σ) (line : Nat)
    {sweep : Sweep} (hs : sweep.Consistent p.criteria)
    (earlier : List Call) (s : σ) :
    enumerate p g o.transcribed line sweep (earlier, s) =
      ((enumerate p g o line sweep s).1,
        (earlier ++ o.calls (followUps p g sweep) s,
          (enumerate p g o line sweep s).2)) := by
  have hiff : (g = .modifiers ∧ sweep.modifierBits.isEmpty = false ∧
      sweep.aborted = false) ↔ enumerates g sweep := by
    rw [isEmpty_modifierBits hs]
    rfl
  by_cases h : enumerates g sweep
  · rw [enumerate, enumerate, if_pos (hiff.2 h), if_pos (hiff.2 h),
      DecodeTable.run_transcribed, hs.modifierBits, followUps_of_enumerates p h]
  · rw [enumerate, enumerate, if_neg (mt hiff.1 h), if_neg (mt hiff.1 h),
      followUps_of_not_enumerates p h, Oracle.calls_nil, List.append_nil]

/-! ### Rounds -/

/-- An examination, the calls of its sweep and those of its table. -/
structure Round extends Examination where
  sweepCalls : List Call
  tableCalls : List Call

namespace Round

/-- All calls of a round, in order. -/
def calls (r : Round) : List Call :=
  r.sweepCalls ++ r.tableCalls

/-- The calls of a round go through the mutants of its entry, and those of its
table through the variants if the sweep is to be followed by them. A table
counts its calls; without calls it is skipped. -/
structure Sound (p : Plan) (g : Goal) (r : Round) : Prop where
  sweepCalls : Oracle.Series
    (Sweep.mutants r.entry.instruction.encoding) r.sweepCalls
  aborted : r.sweep.aborted = r.sweepCalls.any (·.2.isFailure)
  tableCalls : if IsEnumerated p g r.sweep then
      Oracle.Series (DecodeTable.variants r.entry.instruction.encoding
        (r.sweep.classes.idxsOf .modifier)) r.tableCalls
    else r.tableCalls = []
  table : if IsEnumerated p g r.sweep then
      ∃ t, r.table = some t ∧ t.skipped = false ∧
        t.queries = r.tableCalls.length
    else ∀ t, r.table = some t → t.skipped = true ∧ t.queries = 0

end Round

/-- The round that an oracle leads to for an entry. -/
def round (p : Plan) (g : Goal) (o : Oracle σ) (e : Listing.Entry) (s : σ) :
    Round :=
  let r := Sweep.run p.criteria o e.instruction s
  { toExamination := (examine p g o e s).1
    sweepCalls := o.calls (Sweep.mutants e.instruction.encoding) s
    tableCalls := o.calls (followUps p g r.1) r.2 }

/-- The rounds that an oracle leads to for entries one after another. -/
def rounds (p : Plan) (g : Goal) (o : Oracle σ) :
    List Listing.Entry → σ → List Round
  | [], _ => []
  | e :: es, s => round p g o e s :: rounds p g o es (examine p g o e s).2

/-- An examination adds the calls of its round to a transcript. -/
lemma examine_transcribed (p : Plan) (g : Goal) (o : Oracle σ)
    (e : Listing.Entry) (earlier : List Call) (s : σ) :
    examine p g o.transcribed e (earlier, s) =
      ((examine p g o e s).1,
        (earlier ++ (round p g o e s).calls, (examine p g o e s).2)) := by
  rw [examine, Sweep.run_transcribed]
  dsimp only
  rw [enumerate_transcribed g o e.line (Sweep.consistent_run _ _ _ _),
    List.append_assoc]
  rfl

/-- Examinations one after another add the calls of their rounds to a
transcript. -/
theorem examineAll_transcribed (p : Plan) (g : Goal) (o : Oracle σ)
    (es : List Listing.Entry) (earlier : List Call) (s : σ) :
    examineAll p g o.transcribed es (earlier, s) =
      ((examineAll p g o es s).1,
        (earlier ++ (rounds p g o es s).flatMap Round.calls,
          (examineAll p g o es s).2)) := by
  induction es generalizing earlier s with
  | nil => simp [examineAll, rounds]
  | cons e es ih =>
      rw [examineAll, examine_transcribed]
      dsimp only
      rw [ih, rounds, List.flatMap_cons, List.append_assoc]
      rfl

/-- The rounds of entries are their examinations with calls. -/
lemma map_toExamination_rounds (p : Plan) (g : Goal) (o : Oracle σ)
    (es : List Listing.Entry) (s : σ) :
    (rounds p g o es s).map (·.toExamination) =
      (examineAll p g o es s).1 := by
  induction es generalizing s with
  | nil => rfl
  | cons e es ih =>
      rw [rounds, List.map_cons, ih]
      rfl

/-- There is one round for every entry, in order. -/
lemma map_entry_rounds (p : Plan) (g : Goal) (o : Oracle σ)
    (es : List Listing.Entry) (s : σ) :
    (rounds p g o es s).map (·.entry) = es := by
  have h := congrArg (List.map (·.entry))
    (map_toExamination_rounds p g o es s)
  rw [map_entry_examineAll, List.map_map] at h
  exact h

/-- A failure during a sweep is one of its calls. -/
lemma aborted_run_eq_any_calls (c : Criteria) (o : Oracle σ)
    (baseline : Instruction) (s : σ) :
    (Sweep.run c o baseline s).1.aborted =
      (o.calls (Sweep.mutants baseline.encoding) s).any (·.2.isFailure) := by
  rw [Sweep.aborted_run, ← Oracle.map_snd_calls, List.any_map]
  rfl

/-- The table of a round counts the calls, and is skipped without any. -/
lemma table_round (p : Plan) (g : Goal) (o : Oracle σ) (e : Listing.Entry)
    (s : σ) :
    if IsEnumerated p g (round p g o e s).sweep then
      ∃ t, (round p g o e s).table = some t ∧ t.skipped = false ∧
        t.queries = (round p g o e s).tableCalls.length
    else ∀ t, (round p g o e s).table = some t →
      t.skipped = true ∧ t.queries = 0 := by
  set r := Sweep.run p.criteria o e.instruction s
  have hsweep : (round p g o e s).sweep = r.1 := rfl
  rw [hsweep]
  by_cases h : IsEnumerated p g r.1
  · obtain ⟨hg, hab, hpos, hle⟩ := h
    have he : enumerates g r.1 := ⟨hg, List.length_pos_iff.1 hpos, hab⟩
    have ht : (round p g o e s).table = some (DecodeTable.run p.criteria
        p.maxBits o e.line r.1.baseline.opcode r.1.baseline.encoding
        (r.1.classes.idxsOf .modifier) r.2).1 :=
      enumerate_of_enumerates o e.line r.2 (Sweep.consistent_run _ _ _ _) he
    rw [if_pos ⟨hg, hab, hpos, hle⟩]
    refine ⟨_, ht, Bool.eq_false_iff.2 fun hskip => ?_, ?_⟩
    · rw [DecodeTable.skipped_run_iff, toList_ofList_idxsOf] at hskip
      exact absurd hle (Nat.not_le.2 hskip)
    · rw [DecodeTable.queries_run, ← followUps_of_enumerates p he]
      rfl
  · rw [if_neg h]
    intro t ht
    have hfits := (sound_examine p g o e s).table t ht
    obtain ⟨⟨hg, hne, hab⟩, rfl⟩ := table_examine ht
    -- all but the number of bits asks for an enumeration, so there are too
    -- many
    have hlt : min p.maxBits 32 < (r.1.classes.idxsOf .modifier).length := by
      by_contra hle
      exact h ⟨hg, hab, List.length_pos_iff.2 hne, Nat.not_lt.1 hle⟩
    have hskip : (DecodeTable.run p.criteria p.maxBits o e.line
        e.instruction.opcode e.instruction.encoding
        (r.1.classes.idxsOf .modifier) r.2).1.skipped = true := by
      rw [DecodeTable.skipped_run_iff, toList_ofList_idxsOf]
      exact hlt
    exact ⟨hskip, (hfits.of_skipped hskip).1⟩

/-- Every round is as it should be, whatever the oracle answers. -/
theorem sound_round (p : Plan) (g : Goal) (o : Oracle σ) (e : Listing.Entry)
    (s : σ) : (round p g o e s).Sound p g where
  sweepCalls := by
    refine o.series_calls ?_ s
    rw [ne_eq, ← List.length_eq_zero_iff, Sweep.length_mutants]
    decide
  aborted := aborted_run_eq_any_calls _ _ _ _
  tableCalls := by
    have hcalls : (round p g o e s).tableCalls =
        o.calls (followUps p g (round p g o e s).sweep)
          (Sweep.run p.criteria o e.instruction s).2 := rfl
    rw [hcalls, followUps]
    by_cases h : IsEnumerated p g (round p g o e s).sweep
    · rw [if_pos h, if_pos h]
      exact o.series_calls (DecodeTable.variants_ne_nil _ _) _
    · rw [if_neg h, if_neg h, Oracle.calls_nil]
  table := table_round p g o e s

/-- However many rounds come before, every round is as it should be. -/
lemma sound_of_mem_rounds {p : Plan} {g : Goal} {o : Oracle σ}
    {es : List Listing.Entry} {s : σ} {r : Round}
    (h : r ∈ rounds p g o es s) : r.Sound p g := by
  induction es generalizing s with
  | nil => cases h
  | cons e es ih =>
      rw [rounds] at h
      rcases List.mem_cons.1 h with rfl | h
      · exact sound_round p g o e s
      · exact ih h

/-! ### The transcript of a survey -/

/-- The calls of a survey are those of its rounds, one for each entry in
their order, whatever an oracle answers that may change with every question.
A round goes through the mutants of its entry from the lowest bit, and through
the variants by ascending assignment exactly if modifiers are looked for and
the sweep was not cut short and has shown at least one modifier bit and at most
as many as are enumerated. Both begin in any case, and end early only right
after a process failure. -/
theorem transcript_run (p : Plan) (g : Goal) (o : Oracle σ) (l : Listing)
    (s : σ) :
    let out := run p g o.transcribed l ([], s)
    out.1 = (run p g o l s).1 ∧ out.2.2 = (run p g o l s).2 ∧
    ∃ rs : List Round,
      rs.map (·.entry) = l.entries ∧
      out.1 = report p.architecture g (rs.map (·.toExamination)) l.skipped ∧
      (∀ r ∈ rs, r.Sound p g) ∧
      out.2.1 = rs.flatMap (fun r => r.sweepCalls ++ r.tableCalls) ∧
      out.2.1.length =
        (rs.map fun r => r.sweepCalls.length + r.tableCalls.length).sum := by
  intro out
  have hout : out = ((run p g o l s).1,
      ((rounds p g o l.entries s).flatMap Round.calls,
        (run p g o l s).2)) := by
    have hall := examineAll_transcribed p g o l.entries [] s
    rw [List.nil_append] at hall
    show run p g o.transcribed l ([], s) = _
    rw [run, hall]
    rfl
  rw [hout]
  refine ⟨rfl, rfl, rounds p g o l.entries s, map_entry_rounds p g o _ s,
    ?_, fun r hr => sound_of_mem_rounds hr, rfl, ?_⟩
  · rw [map_toExamination_rounds]
    rfl
  · rw [List.length_flatMap]
    simp only [Round.calls, List.length_append]

end Survey

end BitProbe
