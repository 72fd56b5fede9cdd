import BitProbe.Proofs.Word
import BitProbe.Template
import Mathlib.Tactic.Common

/-!
Words in templates.

Whether a word fits into a template is found out twice: before any word is tried
and again with each word. An offset may have 64 bits, and neither time is the end
of the word just a sum: once it is the largest number there is if the sum has
more bits, and once there is none then. For a template of a size that a file can
have, both come to the same as the exact sum.

* `getElem?_patched`: the bytes of a copy with a word in it;
* `IsPatched`: such copies, without a word about how they are made;
* `patch?_eq_some_iff`, `lt_patchEnd_iff`: what the two ends come to;
* `Profile.validate_eq_ok_iff`, `Profile.image_eq_ok_iff`: which profiles have
  room for a word, and what their disassemblers are given;
* `Profile.validate_iff_image`: all of this at once.
-/

namespace BitProbe

/-! ### Copies with a word in them -/

/-- An image is a copy of a template with a word at an offset: it is as long, the
bytes of the word stand there and read as the word, and everywhere else stand
those of the template. -/
structure IsPatched (template : List UInt8) (offset : Nat) (w : Word)
    (image : List UInt8) : Prop where
  length_eq : image.length = template.length
  inside : ∀ i < wordBytes, image[offset + i]? = w.leBytes[i]?
  reads_back : Word.ofLeBytes ((image.drop offset).take wordBytes) = w
  outside : ∀ i, i < offset ∨ offset + wordBytes ≤ i →
    image[i]? = template[i]?

section Copies

variable {template : List UInt8} {offset : Nat}
  (h : offset + wordBytes ≤ template.length)

include h

lemma length_patched (w : Word) :
    (patched template offset w).length = template.length := by
  simp only [patched, List.length_append, List.length_take, List.length_drop,
    Word.length_leBytes, wordBytes] at *
  omega

/-- The bytes of a copy are those of the word in its place, and those of the
template before and after it. -/
lemma getElem?_patched (w : Word) (i : Nat) :
    (patched template offset w)[i]? =
      if offset ≤ i ∧ i < offset + wordBytes then w.leBytes[i - offset]?
      else template[i]? := by
  have hbefore : (template.take offset).length = offset :=
    List.length_take_of_le (by omega)
  have hword : w.leBytes.length = wordBytes := w.length_leBytes
  rw [patched, List.append_assoc, List.getElem?_append, hbefore]
  by_cases hi : i < offset
  · rw [if_pos hi, if_neg (by omega), List.getElem?_take_of_lt hi]
  · rw [if_neg hi, List.getElem?_append, hword]
    by_cases hstop : i < offset + wordBytes
    · rw [if_pos (by omega), if_pos ⟨Nat.not_lt.1 hi, hstop⟩]
    · rw [if_neg (by omega), if_neg (by omega), List.getElem?_drop]
      congr 1
      omega

/-- What stands at the offset is the word. -/
lemma take_drop_patched (w : Word) :
    ((patched template offset w).drop offset).take wordBytes = w.leBytes := by
  have hbefore : (template.take offset).length = offset :=
    List.length_take_of_le (by omega)
  have hword : w.leBytes.length = wordBytes := w.length_leBytes
  rw [patched, List.append_assoc, List.drop_left' hbefore,
    List.take_left' hword]

theorem isPatched_patched (w : Word) :
    IsPatched template offset w (patched template offset w) where
  length_eq := length_patched h w
  inside i hi := by
    rw [getElem?_patched h, if_pos (by omega), Nat.add_sub_cancel_left]
  reads_back := by rw [take_drop_patched h, Word.ofLeBytes_leBytes]
  outside i hi := by rw [getElem?_patched h, if_neg (by omega)]

/-- A word in a copy takes the place of the one that was there. -/
lemma patched_patched (w v : Word) :
    patched (patched template offset w) offset v =
      patched template offset v := by
  have hcopy : offset + wordBytes ≤ (patched template offset w).length := by
    rwa [length_patched h]
  refine List.ext_getElem? fun i => ?_
  rw [getElem?_patched hcopy, getElem?_patched h, getElem?_patched h]
  split <;> rfl

end Copies

/-- Different words make different copies. -/
lemma IsPatched.unique {template image : List UInt8} {offset : Nat}
    {w v : Word} (hw : IsPatched template offset w image)
    (hv : IsPatched template offset v image) : w = v :=
  hw.reads_back.symm.trans hv.reads_back

/-! ### Where a word ends -/

/-- A word ends where the sum says, if it ends anywhere. -/
lemma wordEnd?_eq_some_iff {offset stop : UInt64} :
    wordEnd? offset = some stop ↔ stop.toNat = offset.toNat + wordBytes := by
  have hsum : offset.toNat + wordBytes < UInt64.size →
      (offset + UInt64.ofNat wordBytes).toNat = offset.toNat + wordBytes := by
    intro hlt
    rw [UInt64.toNat_add]
    exact Nat.mod_eq_of_lt hlt
  rw [wordEnd?]
  split
  · rename_i hlt
    rw [Option.some_inj, ← UInt64.toNat_inj, hsum hlt, eq_comm]
  · rename_i hge
    have hstop := stop.toNat_lt
    refine ⟨fun h => (by cases h), fun h => absurd (h ▸ hstop) hge⟩

/-- A word is written if it ends within the template. -/
lemma patch?_eq_some_iff {template image : List UInt8} {offset : UInt64}
    {w : Word} (hsize : template.length < UInt64.size) :
    patch? template offset w = some image ↔
      offset.toNat + wordBytes ≤ template.length ∧
        image = patched template offset.toNat w := by
  rw [patch?]
  cases hstop : wordEnd? offset with
  | none =>
      have hnot : ¬ offset.toNat + wordBytes ≤ template.length := by
        intro hle
        have hend : wordEnd? offset =
            some (UInt64.ofNat (offset.toNat + wordBytes)) :=
          wordEnd?_eq_some_iff.2
            (UInt64.toNat_ofNat_of_lt' (Nat.lt_of_le_of_lt hle hsize))
        rw [hstop] at hend
        cases hend
      simp [hnot]
  | some stop =>
      rw [← wordEnd?_eq_some_iff.1 hstop]
      dsimp only
      split
      · rename_i hle
        rw [Option.some_inj, and_iff_right hle, eq_comm]
      · rename_i hgt
        simp [hgt]

/-- That a size is too small shows also if the sum is not exact. -/
lemma lt_patchEnd_iff {size : Nat} {offset : UInt64}
    (hsize : size < UInt64.size - 1) :
    size < patchEnd offset ↔ size < offset.toNat + wordBytes := by
  rw [patchEnd, Nat.lt_min, and_iff_left hsize]

/-! ### Profiles with a template -/

namespace Profile

section Room

variable {p : Profile} {t : FileTree} {template : String} {offset : UInt64}
  {bytes : List UInt8} (hp : p.invocation = .templated template offset)
  (hfile : t.lookup template = .ok (.file bytes))
  (hsize : bytes.length ≤ 2 ^ (63 : Nat) - 1)

include hp hfile hsize

/-- There is room for a word if it ends within the template. -/
lemma validate_eq_ok_iff :
    p.validate t = .ok () ↔ offset.toNat + wordBytes ≤ bytes.length := by
  have hlen : t.size template = .ok bytes.length := by
    rw [FileTree.size, hfile]
    rfl
  have hlt : bytes.length < UInt64.size - 1 :=
    Nat.lt_of_le_of_lt hsize (by decide)
  rw [validate, hp]
  dsimp only
  rw [hlen]
  dsimp only
  rw [← Nat.not_lt, ← lt_patchEnd_iff hlt]
  split
  · rename_i hshort
    simp [hshort]
  · rename_i hfits
    simp [hfits]

/-- The disassembler is given the copy with the word, if there is room for
it. -/
lemma image_eq_ok_iff {w : Word} {image : List UInt8} :
    p.image t w = .ok image ↔
      offset.toNat + wordBytes ≤ bytes.length ∧
        image = patched bytes offset.toNat w := by
  have hread : t.read template = .ok bytes := by
    rw [FileTree.read, hfile]
    rfl
  have hlt : bytes.length < UInt64.size :=
    Nat.lt_of_le_of_lt hsize (by decide)
  rw [Profile.image, hp]
  dsimp only
  rw [hread, ← patch?_eq_some_iff hlt]
  dsimp only
  cases patch? bytes offset w with
  | none => simp
  | some i => simp

/-- A profile whose template is a file is accepted exactly if its disassembler
can be given a word, whichever this is, and exactly if eight bytes from the offset
on lie within the template. What the disassembler is given is then a copy of the
template with the word at the offset. Different words make different copies, and
a copy that is the template of a profile with the same offset makes the same
copies as the template. -/
theorem validate_iff_image :
    (p.validate t = .ok () ↔ offset.toNat + 8 ≤ bytes.length) ∧
    ∀ w : Word,
      (p.validate t = .ok () ↔ ∃ image, p.image t w = .ok image) ∧
      ∀ image, p.image t w = .ok image →
        IsPatched bytes offset.toNat w image ∧
        (∀ v : Word, p.image t v = .ok image → v = w) ∧
        ∀ (p' : Profile) (t' : FileTree) (template' : String) (v : Word),
          p'.invocation = .templated template' offset →
          t'.lookup template' = .ok (.file image) →
          p'.image t' v = p.image t v := by
  have hvalid := validate_eq_ok_iff hp hfile hsize
  refine ⟨hvalid, fun w => ⟨?accepted, fun image himage => ?_⟩⟩
  case accepted =>
    rw [hvalid]
    simp only [image_eq_ok_iff hp hfile hsize, exists_and_left, exists_eq,
      and_true]
  obtain ⟨hfits, rfl⟩ := (image_eq_ok_iff hp hfile hsize).1 himage
  have hpatched := isPatched_patched hfits w
  refine ⟨hpatched, fun v hv => ?_, fun p' t' template' v hp' hfile' => ?_⟩
  · obtain ⟨-, hsame⟩ := (image_eq_ok_iff hp hfile hsize).1 hv
    exact (isPatched_patched hfits v).unique (hsame ▸ hpatched)
  · have hsize' :
        (patched bytes offset.toNat w).length ≤ 2 ^ (63 : Nat) - 1 := by
      rwa [length_patched hfits]
    have hfits' : offset.toNat + wordBytes ≤
        (patched bytes offset.toNat w).length := by
      rwa [length_patched hfits]
    rw [(image_eq_ok_iff hp hfile hsize (w := v)).2 ⟨hfits, rfl⟩,
      image_eq_ok_iff hp' hfile' hsize']
    exact ⟨hfits', (patched_patched hfits w v).symm⟩

end Room

/-- The last eight bytes of a template have room for a word. -/
theorem validate_iff_image_lastBytes :
    let p := Profile.templated .maxwell "sm_52" "box" 24
    let bytes : List UInt8 := List.replicate 32 0xAA
    let t : FileTree := ⟨[(["box"], .file bytes)], [], [], [], [], 0⟩
    let w : Word := 0x1122334455667788#64
    p.invocation = .templated "box" 24 ∧
      t.lookup "box" = .ok (.file bytes) ∧
      bytes.length ≤ 2 ^ (63 : Nat) - 1 ∧ p.validate t = .ok () ∧
      ∃ image, p.image t w = .ok image ∧ IsPatched bytes 24 w image := by
  intro p bytes t w
  have hnames : FileTree.pathNames "box" = ["box"] := by decide
  have hplace : t.locate "box" = .ok ["box"] := by
    rw [FileTree.locate, FileTree.locateBy, if_neg (by decide),
      if_neg (by decide), if_neg (by decide), hnames, FileTree.walk.eq_def]
    change (if "box" = "" ∨ "box" = "." then _ else _) = _
    rw [if_neg (by decide), if_neg (by decide), if_neg (by decide)]
    exact FileTree.walk.eq_1 ..
  have hfile : t.lookup "box" = .ok (.file bytes) := by
    rw [FileTree.lookup, hplace]
    rfl
  have hsize : bytes.length ≤ 2 ^ (63 : Nat) - 1 := by decide
  obtain ⟨hvalid, himage⟩ := validate_iff_image (p := p) rfl hfile hsize
  have haccepted : p.validate t = .ok () := hvalid.2 (by decide)
  obtain ⟨haccepts, hcopies⟩ := himage w
  obtain ⟨image, h⟩ := haccepts.1 haccepted
  exact ⟨rfl, hfile, hsize, haccepted, image, h, (hcopies image h).1⟩

end Profile

end BitProbe
