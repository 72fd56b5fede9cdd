import BitProbe.Proofs.Listing.Lines
import BitProbe.Proofs.Text.Utf8.WellFormed

/-!
Listings of files with other line endings.

A carriage return more at the end of a line is cut off with the line feed, or
it is a blank at the end of what is left, for text and for what is no text. So
it makes no difference where the lines of a file end in carriage returns, and
none whether its last line is ended.

* `Listing.readLine_append_return`: a carriage return at the end of a line;
* `Listing.linesOfBytes_withReturns`: one at the end of every line;
* `Listing.linesOfBytes_append_feed_cases`: a line feed after the last line;
* `Listing.ofBytes_endings`: the listing is the same in both cases.
-/

namespace BitProbe.Listing

/-! ### Carriage returns -/

/-- What a text is read as depends on what is left of it without the blanks
around it. -/
lemma readText_append_return (number : Nat) (cs : List Char) :
    readText number (cs ++ [Char.ofNat 0x0D]) = readText number cs := by
  rw [readText, readText, Text.trim_append_blank (by decide)]

/-- What bytes are read as without their ending. -/
def readBody (number : Nat) (body : List UInt8) : Line :=
  match Text.Utf8.decode body with
  | some cs => readText number cs
  | none =>
    .skipped ⟨number, String.ofList (Text.trim (Text.Utf8.decodeLossy body)),
      .invalidUtf8⟩

lemma readLine_eq_readBody (number : Nat) (bytes : List UInt8) :
    readLine number bytes = readBody number (Text.chomp 0x0D bytes) :=
  rfl

/-- A carriage return that is not cut off is a blank, also after bytes of no
text: it ends a character that these leave open. -/
lemma readBody_append_return (number : Nat) (body : List UInt8) :
    readBody number (body ++ [0x0D]) = readBody number body := by
  rw [readBody, readBody, Text.Utf8.decode_append_ascii (by decide),
    Text.Utf8.decodeLossy_append_ascii (by decide),
    Text.trim_append_blank (by decide)]
  cases Text.Utf8.decode body with
  | none => rfl
  | some cs => exact readText_append_return number cs

/-- A carriage return at the end of a line makes no difference, whatever the
line ended in before. -/
theorem readLine_append_return (number : Nat) (bytes : List UInt8) :
    readLine number (bytes ++ [0x0D]) = readLine number bytes := by
  rw [readLine_eq_readBody, Text.chomp_append_return, readLine_eq_readBody]
  rcases chomp_eq_iff.1 (rfl : Text.chomp 0x0D bytes = _) with h | ⟨h, -⟩
  · -- one of several was cut off; of the others one is a blank
    conv_lhs => rw [h]
    exact readBody_append_return number _
  · rw [← h]

/-- Pieces that differ in carriage returns at their ends are read as the
same. -/
lemma map_readLine_eq {ps qs : List (List UInt8)}
    (h : List.Forall₂ (fun p q => q = p ∨ q = p ++ [0x0D]) ps qs)
    (count start : Nat) :
    ((qs.take count).zipIdx start).map (fun l => readLine l.2 l.1) =
      ((ps.take count).zipIdx start).map (fun l => readLine l.2 l.1) := by
  induction h generalizing count start with
  | nil => rfl
  | @cons p q ps qs hq _ ih =>
      cases count with
      | zero => rfl
      | succ count =>
          have hread : readLine start q = readLine start p := by
            rcases hq with rfl | rfl
            · rfl
            · exact readLine_append_return start p
          simp only [List.take_succ_cons, List.zipIdx_cons, List.map_cons,
            hread, ih]

/-- The lines of a file are the same with a carriage return before every line
feed. -/
lemma linesOfBytes_withReturns (maxLines : Nat) (bytes : List UInt8) :
    linesOfBytes maxLines (Text.withReturns 0x0D 0x0A bytes) =
      linesOfBytes maxLines bytes :=
  map_readLine_eq (Text.forall₂_pieces_withReturns (by decide) bytes) maxLines 1

/-! ### A last line feed -/

/-- A line feed at the very end adds a blank line at most. -/
lemma linesOfBytes_append_feed_cases (maxLines : Nat) (bytes : List UInt8) :
    linesOfBytes maxLines (bytes ++ [0x0A]) = linesOfBytes maxLines bytes ∨
      linesOfBytes maxLines (bytes ++ [0x0A]) =
        linesOfBytes maxLines bytes ++ [.blank] := by
  rcases Text.pieces_append_separator_cases 0x0A bytes with h | h
  · exact .inl (by rw [linesOfBytes, h, linesOfBytes])
  · rw [linesOfBytes, h, List.take_append, List.zipIdx_append, List.map_append,
      ← linesOfBytes]
    -- the empty piece is read unless there are enough lines before it
    cases maxLines - (Text.pieces 0x0A bytes).length with
    | zero => exact .inl (List.append_nil _)
    | succ n =>
        rw [List.take_succ_cons, List.take_nil]
        exact .inr rfl

/-- Nothing is kept of a blank line. -/
lemma ofLines_append_blank (ls : List Line) :
    ofLines (ls ++ [.blank]) = ofLines ls := by
  simp only [ofLines, List.filterMap_append, Listing.mk.injEq]
  exact ⟨List.append_nil _, List.append_nil _⟩

/-- The listing of a file is the same if all its lines end in carriage return
and line feed, and if there is one more line feed at its end. -/
theorem ofBytes_endings (maxLines : Nat) (bytes : List UInt8) :
    ofBytes maxLines (Text.withReturns 0x0D 0x0A bytes) =
        ofBytes maxLines bytes ∧
      ofBytes maxLines (bytes ++ [0x0A]) = ofBytes maxLines bytes := by
  constructor
  · rw [ofBytes, linesOfBytes_withReturns, ofBytes]
  · rcases linesOfBytes_append_feed_cases maxLines bytes with h | h
    · rw [ofBytes, h, ofBytes]
    · rw [ofBytes, h, ofLines_append_blank, ofBytes]

end BitProbe.Listing
