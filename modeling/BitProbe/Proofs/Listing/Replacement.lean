import BitProbe.Listing
import BitProbe.Proofs.Text.Pieces
import Mathlib.Data.List.Basic
import Mathlib.Data.List.Sort

/-!
The lines of a listing.

What is kept of a line carries the number of the line, so no two entries of a
listing stand on one line, and they ascend. Two files that differ within one
line have the same other lines under the same numbers, and so their listings
hold the same about these, in the same order. What the line itself holds does
not matter: it may be blank, an instruction, malformed or no text at all.

* `Listing.entries_ofBytes`, `Listing.skipped_ofBytes`: the two parts of a
  listing, taken from the numbered lines of a file;
* `Listing.line_of_entry`, `Listing.line_of_skipped`: what is kept of a
  line has its number;
* `Listing.pairwise_line_entries`: the entries ascend;
* `Listing.SameBut`, `Listing.sameBut_replace`: files that differ within one
  line;
* `Listing.AgreeExcept`: listings that agree on all lines but one;
* `Listing.getElem?_linesOfBytes_of_sameBut`: every other line is the same;
* `Listing.agreeExcept_ofBytes`: the listings agree on the other lines.
-/

namespace BitProbe.Listing

/-! ### Line numbers -/

/-- The lines of a file that are read, with their numbers. -/
def numbered (maxLines : Nat) (bytes : List UInt8) :
    List (List UInt8 × Nat) :=
  ((Text.pieces 0x0A bytes).take maxLines).zipIdx 1

lemma entries_ofBytes (maxLines : Nat) (bytes : List UInt8) :
    (ofBytes maxLines bytes).entries =
      (numbered maxLines bytes).filterMap fun l =>
        Line.entry? (readLine l.2 l.1) :=
  List.filterMap_map

lemma skipped_ofBytes (maxLines : Nat) (bytes : List UInt8) :
    (ofBytes maxLines bytes).skipped =
      (numbered maxLines bytes).filterMap fun l =>
        Line.skipped? (readLine l.2 l.1) :=
  List.filterMap_map

/-- A line of text is blank, an entry with the number of the line, or left
out under that number. -/
lemma readText_cases (n : Nat) (cs : List Char) :
    readText n cs = .blank ∨
      (∃ text i, readText n cs = .entry ⟨n, text, i⟩) ∨
      ∃ text error, readText n cs = .skipped ⟨n, text, error⟩ := by
  unfold readText
  by_cases hb : (Text.trim cs).isEmpty = true
  · exact .inl (if_pos hb)
  · rw [if_neg hb]
    cases hi : Instruction.ofLine (String.ofList (Text.trim cs)) with
    | ok i =>
        simp only [hi]
        exact .inr (.inl ⟨_, _, rfl⟩)
    | error error =>
        simp only [hi]
        exact .inr (.inr ⟨_, _, rfl⟩)

/-- A line of bytes is blank, an entry with the number of the line, or left
out under that number. -/
lemma readLine_cases (n : Nat) (bytes : List UInt8) :
    readLine n bytes = .blank ∨
      (∃ text i, readLine n bytes = .entry ⟨n, text, i⟩) ∨
      ∃ text error, readLine n bytes = .skipped ⟨n, text, error⟩ := by
  unfold readLine
  cases hd : Text.Utf8.decode (Text.chomp 0x0D bytes) with
  | none =>
      simp only [hd]
      exact .inr (.inr ⟨_, _, rfl⟩)
  | some cs =>
      simp only [hd]
      exact readText_cases n cs

/-- The entry on a line has the number of the line. -/
lemma line_of_entry {n : Nat} {bytes : List UInt8} {e : Entry}
    (h : Line.entry? (readLine n bytes) = some e) : e.line = n := by
  rcases readLine_cases n bytes with hl | ⟨text, i, hl⟩ | ⟨text, error, hl⟩
  · rw [hl] at h
    cases h
  · rw [hl] at h
    cases h
    rfl
  · rw [hl] at h
    cases h

/-- A line that was left out is kept with its number. -/
lemma line_of_skipped {n : Nat} {bytes : List UInt8} {s : Skipped}
    (h : Line.skipped? (readLine n bytes) = some s) : s.line = n := by
  rcases readLine_cases n bytes with hl | ⟨text, i, hl⟩ | ⟨text, error, hl⟩
  · rw [hl] at h
    cases h
  · rw [hl] at h
    cases h
  · rw [hl] at h
    cases h
    rfl

/-- Lines are numbered in ascending order. -/
lemma pairwise_numbered (maxLines : Nat) (bytes : List UInt8) :
    (numbered maxLines bytes).Pairwise fun a b => a.2 < b.2 := by
  rw [← List.pairwise_map, numbered, List.zipIdx_map_snd]
  exact List.pairwise_lt_range'

/-- The entries of a listing stand on ascending lines. -/
lemma pairwise_line_entries (maxLines : Nat) (bytes : List UInt8) :
    (ofBytes maxLines bytes).entries.Pairwise fun a b => a.line < b.line := by
  rw [entries_ofBytes]
  refine (pairwise_numbered maxLines bytes).filterMap _ ?_
  intro a b hab e he f hf
  rw [line_of_entry he, line_of_entry hf]
  exact hab

/-- No two entries of a listing stand on one line. -/
lemma nodup_line_entries (maxLines : Nat) (bytes : List UInt8) :
    ((ofBytes maxLines bytes).entries.map (·.line)).Nodup := by
  rw [List.Nodup, List.pairwise_map]
  exact (pairwise_line_entries maxLines bytes).imp Nat.ne_of_lt

/-- Two lists that ascend by a number and have the same members are the
same. -/
lemma eq_of_pairwise_lt {α : Type} {number : α → Nat} {xs ys : List α}
    (hx : xs.Pairwise fun a b => number a < number b)
    (hy : ys.Pairwise fun a b => number a < number b)
    (h : ∀ a, a ∈ xs ↔ a ∈ ys) : xs = ys := by
  have hanti : Std.Antisymm fun a b : α => number a < number b :=
    ⟨fun _ _ hab hba => absurd hba (Nat.lt_asymm hab)⟩
  have hirrefl : Std.Irrefl fun a b : α => number a < number b :=
    ⟨fun _ => Nat.lt_irrefl _⟩
  exact hx.eq_of_mem_iff hy h

/-! ### Files that differ within one line -/

/-- Two files have equally many line feeds and differ within line `i` only:
what the line feeds separate is the same at every other place. -/
structure SameBut (i : Nat) (bytes bytes' : List UInt8) : Prop where
  count : bytes.count 0x0A = bytes'.count 0x0A
  cut : ∀ n, n + 1 ≠ i →
    (bytes.splitOn 0x0A)[n]? = (bytes'.splitOn 0x0A)[n]?

/-- Putting bytes without line feeds in the place of others changes the line
that they are on only. -/
lemma sameBut_replace {mid mid' : List UInt8} (h : 0x0A ∉ mid)
    (h' : 0x0A ∉ mid') (before after : List UInt8) :
    SameBut (before.count 0x0A + 1) (before ++ (mid ++ after))
      (before ++ (mid' ++ after)) := by
  constructor
  · rw [List.count_append, List.count_append, List.count_append,
      List.count_append, List.count_eq_zero_of_not_mem h,
      List.count_eq_zero_of_not_mem h']
  · intro n hn
    exact Text.getElem?_splitOn_replace h h' before after
      (mt (congrArg (· + 1)) hn)

/-- Two listings agree on all lines but line `i`. -/
structure AgreeExcept (i : Nat) (l l' : Listing) : Prop where
  entries : l.entries.filter (·.line ≠ i) = l'.entries.filter (·.line ≠ i)
  skipped : l.skipped.filter (·.line ≠ i) = l'.skipped.filter (·.line ≠ i)

section SameBut

variable {i : Nat} {bytes bytes' : List UInt8} (h : SameBut i bytes bytes')

include h

/-- The same bytes are on every other line, and the same lines are there. -/
lemma getElem?_pieces_of_sameBut {n : Nat} (hn : n + 1 ≠ i) :
    (Text.pieces 0x0A bytes)[n]? = (Text.pieces 0x0A bytes')[n]? := by
  rw [Text.getElem?_pieces, Text.getElem?_pieces, h.cut n hn, h.count]

/-- Every other line that is read is the same: an entry, left out or
blank. -/
theorem getElem?_linesOfBytes_of_sameBut (maxLines : Nat) {n : Nat}
    (hn : n + 1 ≠ i) :
    (linesOfBytes maxLines bytes)[n]? =
      (linesOfBytes maxLines bytes')[n]? := by
  simp only [linesOfBytes, List.getElem?_map, List.getElem?_zipIdx,
    List.getElem?_take, getElem?_pieces_of_sameBut h hn]

/-- The other numbered lines that are read are the same, in the same
order. -/
lemma filter_numbered_of_sameBut (maxLines : Nat) :
    (numbered maxLines bytes).filter (·.2 ≠ i) =
      (numbered maxLines bytes').filter (·.2 ≠ i) := by
  refine eq_of_pairwise_lt
    ((pairwise_numbered maxLines bytes).filter _)
    ((pairwise_numbered maxLines bytes').filter _) fun a => ?_
  rw [List.mem_filter, List.mem_filter]
  refine and_congr_left fun ha => ?_
  have hne : a.2 ≠ i := by simpa using ha
  rw [numbered, numbered, List.mem_zipIdx_iff_le_and_getElem?_sub,
    List.mem_zipIdx_iff_le_and_getElem?_sub]
  refine and_congr_right fun hle => ?_
  rw [List.getElem?_take, List.getElem?_take,
    getElem?_pieces_of_sameBut h (by omega)]

end SameBut

/-! ### What is kept of the lines -/

/-- If what is kept of each line has the line's number, then choosing by number
among what is kept is choosing among the lines. -/
lemma filter_filterMap_line {α β : Type} {keep : α → Option β}
    {number : α → Nat} {line : β → Nat} {xs : List α}
    (hline : ∀ a ∈ xs, ∀ b, keep a = some b → line b = number a)
    (choose : Nat → Bool) :
    (xs.filterMap keep).filter (fun b => choose (line b)) =
      (xs.filter fun a => choose (number a)).filterMap keep := by
  rw [List.filter_filterMap, List.filterMap_filter]
  refine List.filterMap_congr fun a ha => ?_
  cases hk : keep a with
  | none => simp
  | some b =>
      rw [Option.filter_some, hline a ha b hk]

/-- So dropping a number from what is kept is dropping the line. -/
lemma filter_filterMap_ne {α β : Type} {keep : α → Option β} {number : α → Nat}
    {line : β → Nat} {xs : List α}
    (hline : ∀ a ∈ xs, ∀ b, keep a = some b → line b = number a) (i : Nat) :
    (xs.filterMap keep).filter (line · ≠ i) =
      (xs.filter (number · ≠ i)).filterMap keep :=
  filter_filterMap_line hline (· ≠ i)

/-- The listings of two files that differ within one line agree on all
others. -/
theorem agreeExcept_ofBytes {i : Nat} {bytes bytes' : List UInt8}
    (h : SameBut i bytes bytes') (maxLines : Nat) :
    (ofBytes maxLines bytes).AgreeExcept i (ofBytes maxLines bytes') := by
  have hnum := filter_numbered_of_sameBut h maxLines
  constructor
  · rw [entries_ofBytes, entries_ofBytes,
      filter_filterMap_ne (fun _ _ _ => line_of_entry),
      filter_filterMap_ne (fun _ _ _ => line_of_entry), hnum]
  · rw [skipped_ofBytes, skipped_ofBytes,
      filter_filterMap_ne (fun _ _ _ => line_of_skipped),
      filter_filterMap_ne (fun _ _ _ => line_of_skipped), hnum]

end BitProbe.Listing
