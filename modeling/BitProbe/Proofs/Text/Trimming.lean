import BitProbe.Text.Blank
import Mathlib.Data.List.TakeWhile
import Mathlib.Tactic.Common

/-!
Texts without the blanks at their ends.

* `Text.Trims`: a text and what is left of it when the blanks at its ends are
  cut off;
* `Text.trim_eq_iff`: trimming leaves this and nothing else;
* `Text.trim_eq_nil_iff`: nothing is left of a text of blanks only;
* `Text.trim_append_blank`: one more blank at the end makes no difference.
-/

namespace BitProbe.Text

/-! ### Cutting off the ends of a list -/

section Ends

variable {α : Type} {p : α → Bool}

lemma dropWhile_append {before l : List α} (hbefore : ∀ a ∈ before, p a = true)
    (hhead : ∀ a, l.head? = some a → p a = false) :
    (before ++ l).dropWhile p = l := by
  rw [List.dropWhile_append_of_pos hbefore]
  cases l with
  | nil => rfl
  | cons a l => exact List.dropWhile_cons_of_neg (by simp [hhead a rfl])

lemma dropRight_append {l after : List α} (hafter : ∀ a ∈ after, p a = true)
    (hlast : ∀ a, l.getLast? = some a → p a = false) :
    dropRight p (l ++ after) = l := by
  have hreverse : (after.reverse ++ l.reverse).dropWhile p = l.reverse :=
    dropWhile_append (by simpa using hafter) (by simpa using hlast)
  rw [dropRight, List.reverse_append, hreverse, List.reverse_reverse]

lemma of_head?_dropWhile {l : List α} {a : α}
    (h : (l.dropWhile p).head? = some a) : p a = false := by
  have hnot := List.head?_dropWhile_not p l
  rwa [h] at hnot

/-- What is cut off the end satisfies the predicate, and what is left does not
end like that. -/
lemma exists_dropRight (p : α → Bool) (l : List α) :
    ∃ after, l = dropRight p l ++ after ∧ (∀ a ∈ after, p a = true) ∧
      ∀ a, (dropRight p l).getLast? = some a → p a = false := by
  refine ⟨(l.reverse.takeWhile p).reverse, ?_, ?_, ?_⟩
  · rw [dropRight, ← List.reverse_append, List.takeWhile_append_dropWhile,
      List.reverse_reverse]
  · intro a ha
    exact List.mem_takeWhile_imp (List.mem_reverse.1 ha)
  · intro a ha
    rw [dropRight, List.getLast?_reverse] at ha
    exact of_head?_dropWhile ha

end Ends

/-! ### Texts -/

/-- A text and what is left without the blanks at its ends: these are cut off,
and there are no others at the ends of what is left. -/
structure Trims (cs text : List Char) : Prop where
  cut : ∃ before after, cs = before ++ (text ++ after) ∧
    (∀ c ∈ before, isBlank c = true) ∧ ∀ c ∈ after, isBlank c = true
  head : ∀ c, text.head? = some c → isBlank c = false
  last : ∀ c, text.getLast? = some c → isBlank c = false

/-- A text of blanks only and what is left of it. -/
lemma trims_nil_iff {cs : List Char} :
    Trims cs [] ↔ ∀ c ∈ cs, isBlank c = true := by
  constructor
  · rintro ⟨⟨before, after, rfl, hbefore, hafter⟩, -, -⟩ c hc
    rw [List.nil_append] at hc
    exact (List.mem_append.1 hc).elim (hbefore c) (hafter c)
  · intro h
    exact ⟨⟨cs, [], (List.append_nil cs).symm, h,
      fun _ hc => absurd hc List.not_mem_nil⟩, fun _ => nofun, fun _ => nofun⟩

/-- Trimming leaves what there is without the blanks at the ends. -/
theorem trim_eq_iff {cs text : List Char} : trim cs = text ↔ Trims cs text := by
  constructor
  · rintro rfl
    obtain ⟨after, hcut, hafter, hlast⟩ :=
      exists_dropRight isBlank (cs.dropWhile isBlank)
    rw [← trim] at hcut hlast
    refine ⟨⟨cs.takeWhile isBlank, after, ?_, fun _ => List.mem_takeWhile_imp,
      hafter⟩, fun c hc => ?_, hlast⟩
    · rw [← hcut, List.takeWhile_append_dropWhile]
    · -- what is left begins where the blanks at the beginning end
      refine of_head?_dropWhile (l := cs) ?_
      rw [hcut, List.head?_append, hc]
      rfl
  · rintro ⟨⟨before, after, rfl, hbefore, hafter⟩, hhead, hlast⟩
    cases text with
    | nil =>
        have hall : ∀ c ∈ before ++ ([] ++ after), isBlank c = true := by
          intro c hc
          exact (List.mem_append.1 hc).elim (hbefore c) (hafter c)
        rw [trim, List.dropWhile_eq_nil_iff.2 hall]
        rfl
    | cons c text =>
        have hrest : ∀ a, (c :: text ++ after).head? = some a →
            isBlank a = false := hhead
        rw [trim, dropWhile_append hbefore hrest, dropRight_append hafter hlast]

/-- Nothing is left of a text exactly if it has blanks only. -/
lemma trim_eq_nil_iff {cs : List Char} :
    trim cs = [] ↔ ∀ c ∈ cs, isBlank c = true :=
  trim_eq_iff.trans trims_nil_iff

/-- A blank at the end is cut off with the others. -/
lemma trim_append_blank {c : Char} (hc : isBlank c = true) (cs : List Char) :
    trim (cs ++ [c]) = trim cs := by
  obtain ⟨⟨before, after, hcs, hbefore, hafter⟩, hhead, hlast⟩ :=
    trim_eq_iff.1 (rfl : trim cs = trim cs)
  refine trim_eq_iff.2 ⟨⟨before, after ++ [c], ?_, hbefore, ?_⟩, hhead, hlast⟩
  · rw [← List.append_assoc (trim cs), ← List.append_assoc before, ← hcs]
  · intro x hx
    rcases List.mem_append.1 hx with hx | hx
    · exact hafter x hx
    · rwa [List.mem_singleton.1 hx]

end BitProbe.Text
