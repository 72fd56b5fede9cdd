import BitProbe.Oracle
import BitProbe.Proofs.Text.Containment

/-!
What the output of a disassembler stands for.

An output is one of four things: blank, uncertain, an error message, or a
text. Whether it is an error message is looked for in the whole output, and
the message in its lines one by one; the two searches never disagree, since
no marker reaches across the end of a line and none is lost with it.

* `Marked`: the texts that hold an error marker in lower case;
* `marked_iff`: these hold one in some letter case;
* `exists_lines_marked_iff`, `marked_trim_iff`: lines and trimmed texts with
  a marker;
* `StandsFor`: the answers that an output stands for;
* `classify_standsFor`: an output is classified as what it stands for, some
  line has a marker if the output has one, and the message of a fault tells
  so.
-/

namespace BitProbe

/-! ### Markers -/

/-- Whether a text holds an error marker in lower case. -/
def Marked (cs : List Char) : Prop :=
  "error".toList <:+: Text.lower cs ∨ "fatal".toList <:+: Text.lower cs

lemma holdsErrorMarker_iff {cs : List Char} :
    holdsErrorMarker cs = true ↔ Marked cs := by
  simp [holdsErrorMarker, errorMarkers, Marked]

instance : DecidablePred Marked := fun _ =>
  decidable_of_iff _ holdsErrorMarker_iff

/-- Error markers are words of plain letters. -/
lemma plainLower_of_mem_errorMarkers {marker : List Char}
    (h : marker ∈ errorMarkers) :
    marker ≠ [] ∧ ∀ c ∈ marker, Text.PlainLower c := by
  simp only [errorMarkers, List.mem_cons, List.not_mem_nil, or_false] at h
  rcases h with rfl | rfl
  · exact ⟨List.cons_ne_nil _ _, by simp [Text.PlainLower]⟩
  · exact ⟨List.cons_ne_nil _ _, by simp [Text.PlainLower]⟩

/-- Lower case finds the markers in some letter case, and nothing else. -/
lemma marked_iff {cs : List Char} :
    Marked cs ↔ ∃ marker ∈ errorMarkers, Text.HoldsInSomeCase marker cs := by
  rw [← holdsErrorMarker_iff, holdsErrorMarker, List.any_eq_true]
  refine exists_congr fun marker => and_congr_right fun hm => ?_
  rw [decide_eq_true_eq,
    Text.holdsInSomeCase_iff (plainLower_of_mem_errorMarkers hm).2]

/-- A text has a marker exactly if one of its lines has one. -/
lemma exists_lines_marked_iff (cs : List Char) :
    (∃ line ∈ Text.lines cs, Marked line) ↔ Marked cs := by
  have hiff : ∀ marker ∈ errorMarkers,
      (∃ line ∈ Text.lines cs, Text.HoldsInSomeCase marker line) ↔
        Text.HoldsInSomeCase marker cs := by
    intro marker hm
    obtain ⟨hne, hplain⟩ := plainLower_of_mem_errorMarkers hm
    exact Text.exists_lines_holdsInSomeCase_iff hplain hne cs
  simp only [marked_iff]
  constructor
  · rintro ⟨line, hl, marker, hm, h⟩
    exact ⟨marker, hm, (hiff marker hm).1 ⟨line, hl, h⟩⟩
  · rintro ⟨marker, hm, h⟩
    obtain ⟨line, hl, h⟩ := (hiff marker hm).2 h
    exact ⟨line, hl, marker, hm, h⟩

/-- Blanks at the ends of a text make no difference. -/
lemma marked_trim_iff (cs : List Char) : Marked (Text.trim cs) ↔ Marked cs := by
  simp only [marked_iff]
  exact exists_congr fun _ => and_congr_right fun hm =>
    Text.holdsInSomeCase_trim_iff (plainLower_of_mem_errorMarkers hm).2 cs

/-- A blank text has no marker. -/
lemma not_marked_of_blank {cs : List Char}
    (h : ∀ c ∈ cs, Text.isBlank c = true) : ¬ Marked cs := by
  rw [← marked_trim_iff, Text.trim_eq_nil_iff.2 h]
  decide

/-! ### Answers -/

/-- The answers that an output stands for. -/
inductive StandsFor (output : String) : Answer → Prop
  /-- All of the output is blank. -/
  | blank (h : ∀ c ∈ output.toList, Text.isBlank c = true) :
    StandsFor output (.error (.fault "empty output"))
  /-- Something in the output is marked as uncertain, whatever else there
  is. -/
  | uncertain (h : '?' ∈ output.toList) : StandsFor output (.error .ambiguous)
  /-- Nothing is uncertain, and this is the first line with an error
  marker. -/
  | message {before after : List (List Char)} {line : List Char}
    (hq : '?' ∉ output.toList)
    (hlines : Text.lines output.toList = before ++ line :: after)
    (hbefore : ∀ l ∈ before, ¬ Marked l) (hline : Marked line) :
    StandsFor output (.error (.fault (String.ofList (Text.trim line))))
  /-- Nothing is uncertain, nothing is an error message, and not all is
  blank. -/
  | text (hne : ∃ c ∈ output.toList, Text.isBlank c = false)
    (hq : '?' ∉ output.toList) (hm : ¬ Marked output.toList) :
    StandsFor output (.ok output)

/-- Every output stands for an answer. -/
lemma exists_standsFor (output : String) : ∃ a, StandsFor output a := by
  by_cases hq : '?' ∈ output.toList
  · exact ⟨_, .uncertain hq⟩
  · by_cases hm : Marked output.toList
    · -- the first of the lines that have a marker
      obtain ⟨l, hl, hmark⟩ := (exists_lines_marked_iff _).2 hm
      have hsome : ((Text.lines output.toList).find? fun l =>
          decide (Marked l)).isSome = true :=
        List.find?_isSome.2 ⟨l, hl, decide_eq_true hmark⟩
      obtain ⟨line, hline⟩ := Option.isSome_iff_exists.1 hsome
      obtain ⟨hmark, before, after, hlines, hbefore⟩ :=
        List.find?_eq_some_iff_append.1 hline
      exact ⟨_, .message hq hlines (by simpa using hbefore)
        (of_decide_eq_true hmark)⟩
    · by_cases hb : ∀ c ∈ output.toList, Text.isBlank c = true
      · exact ⟨_, .blank hb⟩
      · exact ⟨_, .text (by simpa using hb) hq hm⟩

/-- The first line with a marker is the one that is looked for. -/
lemma errorLine_eq {cs line : List Char} {before after : List (List Char)}
    (hlines : Text.lines cs = before ++ line :: after)
    (hbefore : ∀ l ∈ before, ¬ Marked l) (hline : Marked line) :
    errorLine cs = Text.trim line := by
  have hfind : (Text.lines cs).find? holdsErrorMarker = some line := by
    rw [List.find?_eq_some_iff_append]
    refine ⟨holdsErrorMarker_iff.2 hline, before, after, hlines, ?_⟩
    intro l hl
    simpa [← holdsErrorMarker_iff] using hbefore l hl
  rw [errorLine, hfind, Option.getD_some]

/-- Every answer that an output stands for is the one that is given. -/
lemma StandsFor.classify_eq {output : String} {a : Answer}
    (h : StandsFor output a) : classify output = a := by
  have hempty : (Text.trim output.toList).isEmpty = true ↔
      ∀ c ∈ output.toList, Text.isBlank c = true := by
    rw [List.isEmpty_iff, Text.trim_eq_nil_iff]
  simp only [classify, hempty, List.contains_iff_mem, holdsErrorMarker_iff]
  cases h with
  | blank h => rw [if_pos h]
  | uncertain h =>
      have hb : ¬ ∀ c ∈ output.toList, Text.isBlank c = true :=
        fun hb => absurd (hb _ h) (by decide)
      rw [if_neg hb, if_pos h]
  | message hq hlines hbefore hline =>
      have hm : Marked output.toList :=
        (exists_lines_marked_iff _).1 ⟨_, by simp [hlines], hline⟩
      have hb : ¬ ∀ c ∈ output.toList, Text.isBlank c = true :=
        fun hb => not_marked_of_blank hb hm
      rw [if_neg hb, if_neg hq, if_pos hm, errorLine_eq hlines hbefore hline]
  | text hne hq hm =>
      have hb : ¬ ∀ c ∈ output.toList, Text.isBlank c = true := by
        simpa using hne
      rw [if_neg hb, if_neg hq, if_neg hm]

/-- An output is classified as what it stands for. It has an error marker
exactly if one of its lines has one; and unless all of it is blank, the
message of a fault holds a marker in some letter case. -/
theorem classify_standsFor (output : String) :
    (∀ a, classify output = a ↔ StandsFor output a) ∧
    (Marked output.toList ↔ ∃ line ∈ Text.lines output.toList, Marked line) ∧
    ∀ message, classify output = .error (.fault message) →
      (∃ c ∈ output.toList, Text.isBlank c = false) →
      Text.HoldsInSomeCase "error".toList message.toList ∨
        Text.HoldsInSomeCase "fatal".toList message.toList := by
  have hiff : ∀ a, classify output = a ↔ StandsFor output a := by
    intro a
    obtain ⟨b, hb⟩ := exists_standsFor output
    refine ⟨?_, StandsFor.classify_eq⟩
    rintro rfl
    exact hb.classify_eq ▸ hb
  refine ⟨hiff, (exists_lines_marked_iff _).symm, ?_⟩
  rintro message hfault ⟨c, hc, hne⟩
  cases (hiff _).1 hfault with
  | blank h => exact absurd (h c hc) (by simp [hne])
  | message _ _ _ hline =>
      rw [← marked_trim_iff, marked_iff] at hline
      simpa [errorMarkers] using hline

/-- The second of three lines is the first with a marker, after blanks. -/
theorem classify_standsFor_secondLine :
    classify "ok\r\n  FATAL: bad \r\nerror\n" =
        .error (.fault "FATAL: bad") ∧
      (Text.HoldsInSomeCase "error".toList "FATAL: bad".toList ∨
        Text.HoldsInSomeCase "fatal".toList "FATAL: bad".toList) := by
  obtain ⟨hiff, -, hmessage⟩ :=
    classify_standsFor "ok\r\n  FATAL: bad \r\nerror\n"
  have hlines : Text.lines "ok\r\n  FATAL: bad \r\nerror\n".toList =
      ["ok".toList] ++ "  FATAL: bad ".toList :: ["error".toList] := by
    decide +kernel
  have htrim : String.ofList (Text.trim "  FATAL: bad ".toList) =
      "FATAL: bad" := by
    decide +kernel
  have hfault : classify "ok\r\n  FATAL: bad \r\nerror\n" =
      .error (.fault "FATAL: bad") := by
    rw [hiff, ← htrim]
    exact .message (by decide +kernel) hlines (by decide +kernel)
      (by decide +kernel)
  exact ⟨hfault, hmessage _ hfault ⟨'o', by decide +kernel, by decide⟩⟩

end BitProbe
