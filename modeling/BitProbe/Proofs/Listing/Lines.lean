import BitProbe.Proofs.Instruction.Comment
import BitProbe.Proofs.Listing.Replacement
import BitProbe.Proofs.Text.Pieces
import BitProbe.Proofs.Text.Trimming
import BitProbe.Proofs.Text.Utf8.Lossy

/-!
What a listing makes of each line.

The first lines of a file are read, so many of them, and each is one thing. Its
bytes, without one carriage return at their end, are no text, or blank, or else
they are a text which is an instruction or has a reason why it is none. The
listing holds the instructions and the lines that were left out, each once and
under the number of its line, and nothing else.

* `Listing.Reads`: what a line is, by its bytes;
* `Listing.readLine_eq_iff`: it is read as this;
* `Listing.Accounts`: a listing accounts for the first lines of some;
* `Listing.entries_ofBytes_of_le`, `Listing.skipped_ofBytes_of_le`: listings of
  fewer lines;
* `Listing.accounts_ofBytes`: every listing accounts for the lines of its file.
-/

namespace BitProbe

/-! ### Reasons why a line is no instruction -/

lemma Reading.numberFromEnd_ne_invalidUtf8 (fromEnd : List String) :
    numberFromEnd fromEnd ≠ .error .invalidUtf8 := by
  cases fromEnd with
  | nil => simp [numberFromEnd]
  | cons number before =>
      rw [numberFromEnd]
      split
      · cases hw : Word.ofString (String.ofList
            (beforeClosings (afterOpenings number.toList))) with
        | error e => simp [ofString_eq_error hw]
        | ok w => simp
      · simp

lemma Reading.readHead_ne_invalidUtf8 (token : String) :
    readHead token ≠ .error .invalidUtf8 := by
  rw [readHead]
  split
  · simp
  · split <;> simp

/-- Tokens are text, whether they are an instruction or not. -/
lemma Instruction.ofTokens_ne_invalidUtf8 (tokens : List String) :
    ofTokens tokens ≠ .error .invalidUtf8 := by
  rw [ofTokens]
  split
  · simp
  · cases hn : Reading.splitEncoding tokens with
    | error e =>
        rw [Reading.splitEncoding_eq] at hn
        exact fun h => Reading.numberFromEnd_ne_invalidUtf8 _
          (hn.trans (congrArg _ (Except.error.inj h)))
    | ok r =>
        cases hp : Reading.takePredicate (Reading.afterBrace r.1) with
        | mk predicate rest =>
            simp only [hp]
            cases rest with
            | nil => simp
            | cons head rest =>
                cases hr : Reading.readHead head with
                | error e =>
                    simp only [hr]
                    exact fun h => Reading.readHead_ne_invalidUtf8 head
                      (hr.trans (congrArg _ (Except.error.inj h)))
                | ok o => simp [hr]

namespace Listing

open Text (Trims)
open Text.Utf8 (Lossy encode)

/-! ### Lines one by one -/

/-- The bytes of a line and what is left of them without one carriage return at
their end. -/
def Chomps (bytes body : List UInt8) : Prop :=
  bytes = body ++ [0x0D] ∨ bytes = body ∧ bytes.getLast? ≠ some 0x0D

/-- What a line is, by its number and its bytes. -/
inductive Reads (number : Nat) (bytes : List UInt8) : Line → Prop
  /-- The bytes are those of no text; what they are decoded as all the same is
  kept. -/
  | undecodable {body : List UInt8} {shown text : List Char} :
    Chomps bytes body → (∀ cs, encode cs ≠ body) → Lossy body shown →
    Trims shown text →
    Reads number bytes (.skipped ⟨number, String.ofList text, .invalidUtf8⟩)
  | blank {body : List UInt8} {cs : List Char} :
    Chomps bytes body → encode cs = body →
    (∀ c ∈ cs, Text.isBlank c = true) → Reads number bytes .blank
  | instruction {body : List UInt8} {cs text : List Char} {i : Instruction} :
    Chomps bytes body → encode cs = body → ¬ (∀ c ∈ cs, Text.isBlank c = true) →
    Trims cs text → Instruction.ofLine (String.ofList text) = .ok i →
    Reads number bytes (.entry ⟨number, String.ofList text, i⟩)
  | malformed {body : List UInt8} {cs text : List Char} {e : ReadError} :
    Chomps bytes body → encode cs = body → ¬ (∀ c ∈ cs, Text.isBlank c = true) →
    Trims cs text → Instruction.ofLine (String.ofList text) = .error e →
    Reads number bytes (.skipped ⟨number, String.ofList text, e⟩)

lemma chomp_eq_iff {bytes body : List UInt8} :
    Text.chomp 0x0D bytes = body ↔ Chomps bytes body := by
  rw [Text.chomp, Chomps]
  constructor
  · rintro rfl
    split
    · rename_i hlast
      exact .inl (List.dropLast_append_getLast? _ hlast).symm
    · rename_i hlast
      exact .inr ⟨rfl, hlast⟩
  · rintro (rfl | ⟨rfl, hlast⟩)
    · rw [if_pos List.getLast?_concat, List.dropLast_concat]
    · exact if_neg hlast

lemma decode_eq_none_iff {body : List UInt8} :
    Text.Utf8.decode body = none ↔ ∀ cs, encode cs ≠ body := by
  rw [Option.eq_none_iff_forall_ne_some]
  exact forall_congr' fun cs => not_congr Text.Utf8.decode_eq_some_iff

/-- What a line of text is read as, if it is not blank. -/
lemma readText_of_not_blank (number : Nat) {cs : List Char}
    (h : ¬ ∀ c ∈ cs, Text.isBlank c = true) :
    readText number cs =
      match Instruction.ofLine (String.ofList (Text.trim cs)) with
      | .ok i => .entry ⟨number, String.ofList (Text.trim cs), i⟩
      | .error e => .skipped ⟨number, String.ofList (Text.trim cs), e⟩ := by
  rw [readText]
  refine if_neg ?_
  rwa [List.isEmpty_iff, Text.trim_eq_nil_iff]

lemma readText_of_blank (number : Nat) {cs : List Char}
    (h : ∀ c ∈ cs, Text.isBlank c = true) : readText number cs = .blank := by
  rw [readText]
  refine if_pos ?_
  rwa [List.isEmpty_iff, Text.trim_eq_nil_iff]

/-- A line is read as one of the things that it is. -/
lemma reads_readLine (number : Nat) (bytes : List UInt8) :
    Reads number bytes (readLine number bytes) := by
  have hchomps : Chomps bytes (Text.chomp 0x0D bytes) := chomp_eq_iff.1 rfl
  rw [readLine]
  cases hd : Text.Utf8.decode (Text.chomp 0x0D bytes) with
  | none =>
      exact .undecodable hchomps (decode_eq_none_iff.1 hd)
        (Text.Utf8.decodeLossy_eq_iff.1 rfl) (Text.trim_eq_iff.1 rfl)
  | some cs =>
      have hencode := Text.Utf8.decode_eq_some_iff.1 hd
      have htrims : Trims cs (Text.trim cs) := Text.trim_eq_iff.1 rfl
      by_cases hblank : ∀ c ∈ cs, Text.isBlank c = true
      · simp only [readText_of_blank number hblank]
        exact .blank hchomps hencode hblank
      · simp only [readText_of_not_blank number hblank]
        cases hi : Instruction.ofLine (String.ofList (Text.trim cs)) with
        | ok i => exact .instruction hchomps hencode hblank htrims hi
        | error e => exact .malformed hchomps hencode hblank htrims hi

/-- A line is read as each thing that it is. -/
lemma Reads.readLine_eq {number : Nat} {bytes : List UInt8} {l : Line}
    (h : Reads number bytes l) : readLine number bytes = l := by
  cases h with
  | undecodable hchomps hnone hlossy htrims =>
      rw [readLine, chomp_eq_iff.2 hchomps, decode_eq_none_iff.2 hnone,
        Text.Utf8.decodeLossy_eq_iff.2 hlossy, Text.trim_eq_iff.2 htrims]
  | blank hchomps hencode hblank =>
      rw [readLine, chomp_eq_iff.2 hchomps,
        Text.Utf8.decode_eq_some_iff.2 hencode]
      exact readText_of_blank number hblank
  | instruction hchomps hencode hblank htrims hi =>
      rw [readLine, chomp_eq_iff.2 hchomps,
        Text.Utf8.decode_eq_some_iff.2 hencode]
      dsimp only
      rw [readText_of_not_blank number hblank, Text.trim_eq_iff.2 htrims, hi]
  | malformed hchomps hencode hblank htrims hi =>
      rw [readLine, chomp_eq_iff.2 hchomps,
        Text.Utf8.decode_eq_some_iff.2 hencode]
      dsimp only
      rw [readText_of_not_blank number hblank, Text.trim_eq_iff.2 htrims, hi]

/-- A line is one thing, and it is read as this. -/
theorem readLine_eq_iff {number : Nat} {bytes : List UInt8} {l : Line} :
    readLine number bytes = l ↔ Reads number bytes l :=
  ⟨fun h => h ▸ reads_readLine number bytes, Reads.readLine_eq⟩

lemma existsUnique_reads (number : Nat) (bytes : List UInt8) :
    ∃! l, Reads number bytes l :=
  ⟨readLine number bytes, reads_readLine number bytes,
    fun _ h => h.readLine_eq.symm⟩

/-- Lines whose bytes are those of no text are told from all others by the
reason why they are left out. -/
lemma error_eq_invalidUtf8_iff {number : Nat} {bytes : List UInt8}
    {s : Skipped} (h : Reads number bytes (.skipped s)) :
    s.error = .invalidUtf8 ↔
      ∃ body, Chomps bytes body ∧ ∀ cs, encode cs ≠ body := by
  cases h with
  | undecodable hchomps hnone _ _ => exact iff_of_true rfl ⟨_, hchomps, hnone⟩
  | malformed hchomps hencode _ _ he =>
      refine iff_of_false ?_ ?_
      · rintro rfl
        exact Instruction.ofTokens_ne_invalidUtf8 _ he
      · rintro ⟨body, hbody, hnone⟩
        rw [← chomp_eq_iff, chomp_eq_iff.2 hchomps] at hbody
        exact hnone _ (hencode.trans hbody)

/-! ### Listings -/

lemma Line.entry?_eq_some_iff {l : Line} {e : Entry} :
    Line.entry? l = some e ↔ l = .entry e := by
  cases l with
  | entry e' => simp [Line.entry?]
  | blank | skipped s => exact iff_of_false nofun nofun

lemma Line.skipped?_eq_some_iff {l : Line} {s : Skipped} :
    Line.skipped? l = some s ↔ l = .skipped s := by
  cases l with
  | skipped s' => simp [Line.skipped?]
  | blank | entry e => exact iff_of_false nofun nofun

/-- The numbered lines of a file are its first pieces, counted from one. -/
lemma mem_numbered_iff {maxLines : Nat} {bytes : List UInt8}
    {l : List UInt8 × Nat} :
    l ∈ numbered maxLines bytes ↔ ∃ n < maxLines,
      (Text.pieces 0x0A bytes)[n]? = some l.1 ∧ l.2 = n + 1 := by
  rw [numbered, List.mem_zipIdx_iff_le_and_getElem?_sub, List.getElem?_take]
  constructor
  · rintro ⟨hle, hget⟩
    split at hget
    · rename_i hlt
      exact ⟨l.2 - 1, hlt, hget, by omega⟩
    · cases hget
  · rintro ⟨n, hn, hget, hl⟩
    rw [hl, Nat.add_sub_cancel, if_pos hn]
    exact ⟨by omega, hget⟩

/-- Fewer lines are the first of more. -/
lemma numbered_of_le {m n : Nat} (h : m ≤ n) (bytes : List UInt8) :
    numbered m bytes = (numbered n bytes).filter (·.2 ≤ m) := by
  refine eq_of_pairwise_lt (pairwise_numbered m bytes)
    ((pairwise_numbered n bytes).filter _) fun l => ?_
  rw [List.mem_filter, mem_numbered_iff, mem_numbered_iff]
  constructor
  · rintro ⟨k, hk, hget, hl⟩
    exact ⟨⟨k, by omega, hget, hl⟩, decide_eq_true (by omega)⟩
  · rintro ⟨⟨k, -, hget, hl⟩, hle⟩
    have hle := of_decide_eq_true hle
    exact ⟨k, by omega, hget, hl⟩

/-- The entries of fewer lines are those with the first numbers. -/
lemma entries_ofBytes_of_le {m n : Nat} (h : m ≤ n) (bytes : List UInt8) :
    (ofBytes m bytes).entries =
      (ofBytes n bytes).entries.filter (·.line ≤ m) := by
  rw [entries_ofBytes, entries_ofBytes, numbered_of_le h]
  exact (filter_filterMap_line (fun _ _ _ => line_of_entry) (· ≤ m)).symm

/-- So are the lines that were left out. -/
lemma skipped_ofBytes_of_le {m n : Nat} (h : m ≤ n) (bytes : List UInt8) :
    (ofBytes m bytes).skipped =
      (ofBytes n bytes).skipped.filter (·.line ≤ m) := by
  rw [skipped_ofBytes, skipped_ofBytes, numbered_of_le h]
  exact (filter_filterMap_line (fun _ _ _ => line_of_skipped) (· ≤ m)).symm

/-- Something is true of a numbered line if it is of one of the first pieces. -/
lemma exists_mem_numbered_iff {maxLines : Nat} {bytes : List UInt8}
    (P : Nat → List UInt8 → Prop) :
    (∃ l ∈ numbered maxLines bytes, P l.2 l.1) ↔ ∃ n < maxLines, ∃ p,
      (Text.pieces 0x0A bytes)[n]? = some p ∧ P (n + 1) p := by
  simp only [mem_numbered_iff]
  constructor
  · rintro ⟨⟨p, k⟩, ⟨n, hn, hget, rfl⟩, h⟩
    exact ⟨n, hn, p, hget, h⟩
  · rintro ⟨n, hn, p, hget, h⟩
    exact ⟨(p, n + 1), ⟨n, hn, hget, rfl⟩, h⟩

/-- A listing has an entry for each line that is one. -/
lemma mem_entries_ofBytes_iff {maxLines : Nat} {bytes : List UInt8}
    {e : Entry} :
    e ∈ (ofBytes maxLines bytes).entries ↔ ∃ n < maxLines, ∃ p,
      (Text.pieces 0x0A bytes)[n]? = some p ∧ Reads (n + 1) p (.entry e) := by
  rw [entries_ofBytes, List.mem_filterMap]
  simp only [Line.entry?_eq_some_iff, readLine_eq_iff]
  exact exists_mem_numbered_iff fun n p => Reads n p (.entry e)

/-- It has each line that was left out. -/
lemma mem_skipped_ofBytes_iff {maxLines : Nat} {bytes : List UInt8}
    {s : Skipped} :
    s ∈ (ofBytes maxLines bytes).skipped ↔ ∃ n < maxLines, ∃ p,
      (Text.pieces 0x0A bytes)[n]? = some p ∧ Reads (n + 1) p (.skipped s) := by
  rw [skipped_ofBytes, List.mem_filterMap]
  simp only [Line.skipped?_eq_some_iff, readLine_eq_iff]
  exact exists_mem_numbered_iff fun n p => Reads n p (.skipped s)

/-- The lines that were left out stand in ascending order. -/
lemma pairwise_line_skipped (maxLines : Nat) (bytes : List UInt8) :
    (ofBytes maxLines bytes).skipped.Pairwise fun a b => a.line < b.line := by
  rw [skipped_ofBytes]
  refine (pairwise_numbered maxLines bytes).filterMap _ ?_
  intro a b hab s hs t ht
  rw [line_of_skipped hs, line_of_skipped ht]
  exact hab

lemma Reads.line_entry {number : Nat} {bytes : List UInt8} {e : Entry}
    (h : Reads number bytes (.entry e)) : e.line = number := by
  cases h
  rfl

lemma Reads.line_skipped {number : Nat} {bytes : List UInt8} {s : Skipped}
    (h : Reads number bytes (.skipped s)) : s.line = number := by
  cases h <;> rfl

/-- A listing accounts for the first `maxLines` of some lines: each of them is
one thing, and the listing holds it if it is not blank, and nothing else. -/
structure Accounts (ps : List (List UInt8)) (maxLines : Nat) (l : Listing) :
    Prop where
  reads : ∀ n < maxLines, ∀ p, ps[n]? = some p → ∃! r, Reads (n + 1) p r
  entries : ∀ e, e ∈ l.entries ↔ ∃ n < maxLines, ∃ p,
    ps[n]? = some p ∧ Reads (n + 1) p (.entry e)
  skipped : ∀ s, s ∈ l.skipped ↔ ∃ n < maxLines, ∃ p,
    ps[n]? = some p ∧ Reads (n + 1) p (.skipped s)
  /-- The bytes that are those of no text are told by the reason. -/
  undecodable : ∀ s ∈ l.skipped, s.error = .invalidUtf8 ↔ ∃ p body,
    ps[s.line - 1]? = some p ∧ Chomps p body ∧ ∀ cs, encode cs ≠ body
  entries_ascend : l.entries.Pairwise fun a b => a.line < b.line
  skipped_ascend : l.skipped.Pairwise fun a b => a.line < b.line
  line_ne : ∀ e ∈ l.entries, ∀ s ∈ l.skipped, e.line ≠ s.line

/-- A listing accounts for the first pieces of its file. -/
lemma accounts_pieces (maxLines : Nat) (bytes : List UInt8) :
    Accounts (Text.pieces 0x0A bytes) maxLines (ofBytes maxLines bytes) where
  reads n _ p _ := existsUnique_reads (n + 1) p
  entries _ := mem_entries_ofBytes_iff
  skipped _ := mem_skipped_ofBytes_iff
  undecodable s hs := by
    obtain ⟨n, -, p, hget, h⟩ := mem_skipped_ofBytes_iff.1 hs
    rw [error_eq_invalidUtf8_iff h, h.line_skipped, Nat.add_sub_cancel, hget]
    constructor
    · rintro ⟨body, hbody⟩
      exact ⟨p, body, rfl, hbody⟩
    · rintro ⟨p', body, ⟨⟩, hbody⟩
      exact ⟨body, hbody⟩
  entries_ascend := pairwise_line_entries maxLines bytes
  skipped_ascend := pairwise_line_skipped maxLines bytes
  line_ne e he s hs := by
    obtain ⟨n, -, p, hget, h⟩ := mem_entries_ofBytes_iff.1 he
    obtain ⟨n', -, p', hget', h'⟩ := mem_skipped_ofBytes_iff.1 hs
    rw [h.line_entry, h'.line_skipped]
    intro hn
    obtain rfl : n = n' := Nat.succ.inj hn
    obtain rfl : p = p' := Option.some.inj (hget.symm.trans hget')
    exact Line.noConfusion (h.readLine_eq.symm.trans h'.readLine_eq)

/-- The listing of a file accounts for its lines, which are what line feeds end,
and a last one that is not empty. With fewer lines it holds exactly what carries
their numbers. -/
theorem accounts_ofBytes (bytes : List UInt8) :
    ∃ ps, (∀ qs, Text.EndedBy 0x0A bytes qs ↔ qs = ps) ∧
      ∀ maxLines, Accounts ps maxLines (ofBytes maxLines bytes) ∧
        ∀ m ≤ maxLines,
          (ofBytes m bytes).entries =
            (ofBytes maxLines bytes).entries.filter (·.line ≤ m) ∧
          (ofBytes m bytes).skipped =
            (ofBytes maxLines bytes).skipped.filter (·.line ≤ m) := by
  refine ⟨Text.pieces 0x0A bytes, fun qs => ?_, fun maxLines =>
    ⟨accounts_pieces maxLines bytes, fun m hm => ?_⟩⟩
  · rw [← Text.pieces_eq_iff, eq_comm]
  · exact ⟨entries_ofBytes_of_le hm bytes, skipped_ofBytes_of_le hm bytes⟩

end Listing

end BitProbe
