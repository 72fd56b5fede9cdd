import BitProbe.Csv
import Mathlib.Tactic.Common

/-!
Reading comma-separated values.

A reader takes one character at a time. A comma ends a field and a line feed a
record, unless they stand between quotes, where two quotes in a row are one
quote of the field. The reader is strict: a quote opens a field or stands
between quotes, a carriage return stands between quotes, and the last record
is ended like all others.

Whatever characters the fields of a file hold, a reader finds just these
fields: a comma or a line feed ends a field only where one was put between
two fields or at the end of a record.

* `Csv.Place`: where a reader stands in a field;
* `Csv.Reader`, `Csv.Reader.step`: what a reader knows, and what it makes of a
  character;
* `Csv.read?`: the records of a text;
* `Csv.foldlM_field`: a reader before a field and after it;
* `Csv.foldlM_record`: the same for a record;
* `Csv.read?_file`: the records of a file;
* `Csv.write_eq_ok`: when a file can be written.
-/

namespace BitProbe.Csv

/-! ### Reading -/

/-- Where a reader stands in a field. -/
inductive Place where
  /-- Before the first character. -/
  | start
  /-- In a field without quotes. -/
  | bare
  /-- Between quotes. -/
  | quoted
  /-- After a quote, which ends the field unless another one follows. -/
  | closing
  deriving DecidableEq, Repr

/-- What a reader knows: the characters of the field it stands in, the fields
before it in its record, and the records before. -/
structure Reader where
  place : Place := .start
  field : List Char := []
  record : List String := []
  records : List (List String) := []

namespace Reader

/-- One more character in the field. -/
def keep (r : Reader) (place : Place) (c : Char) : Reader :=
  { r with place, field := r.field ++ [c] }

/-- The end of the field. -/
def endField (r : Reader) : Reader :=
  { r with
    place := .start
    field := []
    record := r.record ++ [String.ofList r.field] }

/-- The end of the record with the field. -/
def endRecord (r : Reader) : Reader :=
  { records := r.records ++ [r.record ++ [String.ofList r.field]] }

/-- A character that is no quote, outside quotes. -/
def stepOutside (r : Reader) (c : Char) : Option Reader :=
  if c = ',' then some r.endField
  else if c = '\n' then some r.endRecord
  else if c = '\x0d' || r.place = .closing then none
  else some (r.keep .bare c)

/-- What a reader makes of a character. -/
def step (r : Reader) (c : Char) : Option Reader :=
  if c = '\x22' then
    match r.place with
    | .start => some { r with place := .quoted }
    | .bare => none
    | .quoted => some { r with place := .closing }
    | .closing => some (r.keep .quoted c)
  else
    match r.place with
    | .quoted => some (r.keep .quoted c)
    | _ => r.stepOutside c

/-- The records, if the last one is ended. -/
def finish (r : Reader) : Option (List (List String)) :=
  if r.place = .start ∧ r.record = [] then some r.records else none

end Reader

/-- The records of a text. -/
def read? (cs : List Char) : Option (List (List String)) :=
  (cs.foldlM Reader.step {}).bind Reader.finish

/-! ### Fields -/

/-- A character that is not special is kept where no field has been closed. -/
lemma step_plain {r : Reader} (hq : r.place = .start ∨ r.place = .bare)
    {c : Char} (hc : isSpecial c = false) :
    r.step c = some (r.keep .bare c) := by
  simp only [isSpecial, Bool.or_eq_false_iff, decide_eq_false_iff_not] at hc
  obtain ⟨⟨⟨hcomma, hquote⟩, hreturn⟩, hfeed⟩ := hc
  have hclosing : r.place ≠ .closing := by
    rcases hq with hq | hq <;> simp [hq]
  have hout : r.stepOutside c = some (r.keep .bare c) := by
    rw [Reader.stepOutside, if_neg hcomma, if_neg hfeed, if_neg]
    simp [hreturn, hclosing]
  rw [Reader.step, if_neg hquote]
  rcases hq with hq | hq <;> rw [hq] <;> exact hout

/-- A field that needs no quotes. -/
lemma foldlM_plain {r : Reader} (hq : r.place = .start ∨ r.place = .bare)
    {cs : List Char} (h : ∀ c ∈ cs, isSpecial c = false) :
    ∃ place, place ≠ .quoted ∧
      cs.foldlM Reader.step r =
        some { r with place, field := r.field ++ cs } := by
  induction cs generalizing r with
  | nil =>
      refine ⟨r.place, ?_, by simp⟩
      rcases hq with hq | hq <;> simp [hq]
  | cons c cs ih =>
      have hc := step_plain hq (h c List.mem_cons_self)
      obtain ⟨place, hplace, hcs⟩ := @ih (r.keep .bare c) (.inr rfl)
        fun d hd => h d (List.mem_cons_of_mem c hd)
      refine ⟨place, hplace, ?_⟩
      rw [List.foldlM_cons, hc]
      simpa [Reader.keep] using hcs

/-- Between quotes every character is read as it is meant. -/
lemma foldlM_doubled {r : Reader} (hq : r.place = .quoted) (cs : List Char) :
    (cs.flatMap doubled).foldlM Reader.step r =
      some { r with field := r.field ++ cs } := by
  induction cs generalizing r with
  | nil => simp
  | cons c cs ih =>
      have hc : (doubled c).foldlM Reader.step r =
          some (r.keep .quoted c) := by
        by_cases hquote : c = '\x22'
        · simp [doubled, hquote, Reader.step, hq, Reader.keep]
        · simp [doubled, hquote, Reader.step, hq]
      rw [List.flatMap_cons, List.foldlM_append, hc]
      have hcs := @ih (r.keep .quoted c) rfl
      simpa [Reader.keep, hq] using hcs

/-- A reader has kept the characters of a field when it comes to what follows
the field. -/
lemma foldlM_field {r : Reader} (hq : r.place = .start) (hf : r.field = [])
    (cs : List Char) :
    ∃ place, place ≠ .quoted ∧
      (field cs).foldlM Reader.step r = some { r with place, field := cs } := by
  rw [field]
  split
  · refine ⟨.closing, by decide, ?_⟩
    have hopen : r.step '\x22' = some { r with place := .quoted } := by
      rw [Reader.step, if_pos rfl, hq]
    have hbody := @foldlM_doubled { r with place := .quoted } rfl cs
    rw [List.foldlM_cons, hopen]
    simp only [Option.bind_eq_bind, Option.bind_some]
    rw [List.foldlM_append, hbody]
    simp [hf, Reader.step]
  · rename_i hplain
    have hcs : ∀ c ∈ cs, isSpecial c = false := by simpa using hplain
    obtain ⟨place, hplace, h⟩ := foldlM_plain (.inl hq) hcs
    exact ⟨place, hplace, by rw [h, hf, List.nil_append]⟩

/-- A comma after a field ends it. -/
lemma step_comma {r : Reader} (h : r.place ≠ .quoted) :
    r.step ',' = some r.endField := by
  rw [Reader.step, if_neg (by decide)]
  cases hp : r.place with
  | quoted => exact absurd hp h
  | start => simp [Reader.stepOutside]
  | bare => simp [Reader.stepOutside]
  | closing => simp [Reader.stepOutside]

/-- A line feed after a field ends the record as well. -/
lemma step_feed {r : Reader} (h : r.place ≠ .quoted) :
    r.step '\n' = some r.endRecord := by
  rw [Reader.step, if_neg (by decide)]
  cases hp : r.place with
  | quoted => exact absurd hp h
  | start => simp [Reader.stepOutside]
  | bare => simp [Reader.stepOutside]
  | closing => simp [Reader.stepOutside]

/-! ### Records -/

/-- A reader finds the fields of a record. -/
lemma foldlM_record {fields : List String} (hne : fields ≠ [])
    (before : List String) (records : List (List String)) :
    (record fields).foldlM Reader.step { record := before, records } =
      some { records := records ++ [before ++ fields] } := by
  induction fields generalizing before with
  | nil => exact absurd rfl hne
  | cons f fs ih =>
      obtain ⟨place, hplace, hf⟩ :=
        @foldlM_field { record := before, records } rfl rfl f.toList
      cases fs with
      | nil =>
          rw [record, List.map_singleton, List.intercalate_singleton,
            List.foldlM_append, hf]
          simp [step_feed, hplace, Reader.endRecord]
      | cons g gs =>
          have hcomma := @step_comma ⟨place, f.toList, before, records⟩ hplace
          have hrest := ih (List.cons_ne_nil g gs) (before ++ [f])
          have hsplit : record (f :: g :: gs) =
              field f.toList ++ ',' :: record (g :: gs) := by
            simp [record, List.intercalate_cons_cons]
          rw [hsplit, List.foldlM_append, hf]
          simp only [Option.bind_eq_bind, Option.bind_some, List.foldlM_cons,
            hcomma]
          rw [Reader.endField, String.ofList_toList, hrest, List.append_assoc,
            List.singleton_append]

/-- A reader finds the records of a file. -/
lemma foldlM_records {records : List (List String)}
    (hne : ∀ fields ∈ records, fields ≠ []) (before : List (List String)) :
    (records.flatMap record).foldlM Reader.step { records := before } =
      some { records := before ++ records } := by
  induction records generalizing before with
  | nil => simp
  | cons fields records ih =>
      have hfirst := foldlM_record (hne fields List.mem_cons_self) [] before
      have hrest := ih (fun fs hfs => hne fs (List.mem_cons_of_mem _ hfs))
        (before ++ [fields])
      rw [List.flatMap_cons, List.foldlM_append, hfirst]
      simpa using hrest

/-- The records of a file are read back, if each has a field at least. -/
theorem read?_file {records : List (List String)}
    (hne : ∀ fields ∈ records, fields ≠ []) :
    read? (file records).toList = some records := by
  rw [read?, file, String.toList_ofList, foldlM_records hne]
  rfl

example : read? "a,b\n\x221,5\x22,\x22\x22\x22so\x22\x22\n\x22\n".toList =
    some [["a", "b"], ["1,5", "\x22so\x22\n"]] := by
  decide

/-- Records with equally many fields can be written. -/
theorem write_eq_ok {records : List (List String)} {n : Nat}
    (h : ∀ fields ∈ records, fields.length = n) :
    write records = .ok (file records) := by
  cases records with
  | nil => rfl
  | cons first rest =>
      have hnone : rest.find? (·.length ≠ first.length) = none := by
        rw [List.find?_eq_none]
        intro fields hfields
        simp [h fields (List.mem_cons_of_mem _ hfields),
          h first List.mem_cons_self]
      rw [write, hnone]

end BitProbe.Csv
