import BitProbe.Listing
import BitProbe.Proofs.Disassembler.Retries
import BitProbe.Proofs.Survey.Simulation
import BitProbe.Proofs.Text.Numerals
import Mathlib.Data.List.Basic
import Mathlib.Data.List.Perm.Subperm
import Mathlib.Tactic.Common

/-!
What changes to a tree change.

Two trees in which the same stands at every place may differ in their times and
modes. Where paths lead to and what is read there is the same in both. A
scratch file that is put where nothing stands, and removed in the end, leaves
such a tree. A file that is written has its new contents at each of its places,
and all others stay as they were; what is written to a device leaves everything
as it was.

A disassembler puts each word into a scratch file whose name no other file has,
and removes it when its program has ended. So if programs leave files alone, a
disassembler does, whatever it is asked.

* `FileTree.SameFiles`: the same at every place;
* `FileTree.SameFiles.locate`, `FileTree.SameFiles.lookup`: where paths lead to,
  and what stands there;
* `FileTree.SameFiles.writable`: where files can be written;
* `FileTree.SameFiles.ofFile`: the listing in a file;
* `FileTree.SameFiles.of_remove`: scratch files;
* `FileTree.IsFreeForFile`: where a file stands or nothing does;
* `FileTree.Holds`, `FileTree.holds_of_write`: what a file that was written
  leaves behind;
* `FileTree.sameFiles_of_write`: what is written to a device leaves behind;
* `Tools.LeaveFiles`: programs that leave files alone;
* `Disassembler.freshName_not_mem`: the name of a scratch file is its own;
* `Disassembler.keeps_oracle`: a disassembler leaves files alone.
-/

namespace BitProbe.FileTree

/-! ### Trees with the same files -/

/-- The same at every place, and the same directory to start from. -/
structure SameFiles (t t' : FileTree) : Prop where
  workDir : t'.workDir = t.workDir
  node? : ∀ names, t'.node? names = t.node? names

namespace SameFiles

variable {t t' t'' : FileTree}

lemma refl (t : FileTree) : t.SameFiles t :=
  ⟨rfl, fun _ => rfl⟩

lemma trans (h : t.SameFiles t') (h' : t'.SameFiles t'') : t.SameFiles t'' :=
  ⟨h'.workDir.trans h.workDir, fun names => (h'.node? names).trans (h.node? names)⟩

/-- A walk looks only at what stands on its way. -/
lemma walk (h : t.SameFiles t') (follow : Bool) (links : Nat)
    (here names : List String) :
    t'.walk follow links here names = t.walk follow links here names := by
  induction links, here, names using FileTree.walk.induct t follow with
  | case1 links here => rw [FileTree.walk, FileTree.walk]
  | case2 links here name rest hnone =>
      rw [walk.eq_def t', walk.eq_def t, h.node?, hnone]
  | case3 links here name rest hdir hself ih =>
      rw [walk.eq_def t', walk.eq_def t, h.node?, hdir]
      simp only [if_pos hself, ih]
  | case4 links here rest hdir hself ih =>
      rw [walk.eq_def t', walk.eq_def t, h.node?, hdir]
      simp only [if_neg hself, if_true, ih]
  | case5 links here name rest hdir hself hup hlong =>
      rw [walk.eq_def t', walk.eq_def t, h.node?, hdir]
      simp only [if_neg hself, if_neg hup, if_pos hlong]
  | case6 here name rest hdir hself hup hlong target links hlink hlast =>
      rw [walk.eq_def t', walk.eq_def t, h.node?, hdir]
      simp only [if_neg hself, if_neg hup, if_neg hlong, h.node?, hlink,
        if_pos hlast]
  | case7 here name rest hdir hself hup hlong target links hlink hlast ih =>
      rw [walk.eq_def t', walk.eq_def t, h.node?, hdir]
      simp only [if_neg hself, if_neg hup, if_neg hlong, h.node?, hlink,
        if_neg hlast]
      exact ih
  | case8 here name rest hdir hself hup hlong target hlink =>
      rw [walk.eq_def t', walk.eq_def t, h.node?, hdir]
      simp only [if_neg hself, if_neg hup, if_neg hlong, h.node?, hlink]
  | case9 here name rest hdir hself hup hlong links hsome hzero ih =>
      rw [walk.eq_def t', walk.eq_def t, h.node?, hdir]
      simp only [if_neg hself, if_neg hup, if_neg hlong, h.node?]
      exact ih
  | case10 links here name rest n hother hn =>
      rw [walk.eq_def t', walk.eq_def t, h.node?, hn]
      cases n with
      | directory => exact absurd rfl hother
      | _ => rfl

/-- A path leads to the same place. -/
lemma locate (h : t.SameFiles t') (path : String) :
    t'.locate path = t.locate path := by
  simp only [FileTree.locate, locateBy, h.workDir, h.walk]

/-- The same stands where a path leads to. -/
theorem lookup (h : t.SameFiles t') (path : String) :
    t'.lookup path = t.lookup path := by
  simp only [FileTree.lookup, nodeAt, h.locate, h.node?]

/-- A file can be written at the same place. -/
lemma writable (h : t.SameFiles t') (path : String) :
    t'.writable path = t.writable path := by
  simp only [FileTree.writable, h.locate, h.node?]

/-- A file holds the same listing. -/
lemma ofFile (h : t.SameFiles t') (maxLines : Nat) (path : String) :
    Listing.ofFile maxLines t' path = Listing.ofFile maxLines t path := by
  simp only [Listing.ofFile, h.lookup]

end SameFiles

variable {t t' : FileTree} {place names : List String}

/-! ### Scratch files -/

lemma workDir_put (t : FileTree) (place : List String) (n : Node) :
    (t.put place n).workDir = t.workDir := by
  rw [put]
  dsimp only
  split <;> rfl

/-- A mode is no part of what stands somewhere. -/
lemma sameFiles_setMode (t : FileTree) (place : List String) (m : Nat) :
    t.SameFiles (t.setMode place m) :=
  ⟨rfl, fun _ => rfl⟩

lemma nodes_remove (t : FileTree) (place : List String) :
    (t.remove place).nodes = t.nodes.filter (·.1 ≠ place) :=
  rfl

lemma node?_remove_self (h : place ≠ []) :
    (t.remove place).node? place = none := by
  have hempty : ¬place.isEmpty := by simpa using h
  rw [node?, if_neg hempty, nodes_remove, List.lookup_eq_none_iff]
  intro e he
  have hne : e.1 ≠ place := of_decide_eq_true (List.mem_filter.1 he).2
  exact bne_iff_ne.2 hne.symm

lemma node?_remove_of_ne (h : names ≠ place) :
    (t.remove place).node? names = t.node? names := by
  rw [node?, node?, nodes_remove, lookup_filter_ne h]

/-- A file that was put where nothing stood leaves nothing behind. -/
theorem SameFiles.of_remove {n : Node} (hplace : place ≠ [])
    (hfree : t.node? place = none) (h : (t.put place n).SameFiles t') :
    t.SameFiles (t'.remove place) where
  workDir := h.workDir.trans (workDir_put t place n)
  node? names := by
    by_cases hn : names = place
    · rw [hn, node?_remove_self hplace, hfree]
    · rw [node?_remove_of_ne hn, h.node?, node?_put_of_ne t n hn]

/-! ### Written files -/

/-- Whether a file stands at a place, or nothing does. -/
def IsFreeForFile (t : FileTree) (place : List String) : Prop :=
  ∀ n, t.node? place = some n → ∃ bytes, n = .file bytes

/-- The contents of the file at a place are these, at each of the places that
it had, and everything else is as it was. -/
structure Holds (t : FileTree) (place : List String) (bytes : List UInt8)
    (t' : FileTree) : Prop where
  contents : t'.node? place = some (.file bytes)
  others : ∀ names, names ∉ t.twinsOf place → t'.node? names = t.node? names
  workDir : t'.workDir = t.workDir

lemma mem_twinsOf (t : FileTree) (place : List String) :
    place ∈ t.twinsOf place := by
  rw [twinsOf]
  cases h : t.twins.find? (·.contains place) with
  | none => exact List.mem_singleton_self place
  | some g =>
      have hmem := List.find?_some h
      exact List.contains_iff_mem.1 hmem

/-- Putting a file at one place. -/
lemma holds_put (hplace : place ≠ []) (bytes : List UInt8) :
    t.Holds place bytes (t.put place (.file bytes)) where
  contents := node?_put_self t _ hplace
  others _ hnames :=
    node?_put_of_ne t _ fun h => hnames (h ▸ mem_twinsOf t place)
  workDir := workDir_put t place _

/-- Looking among places that all hold the same. -/
lemma lookup_map_const {α β : Type} [BEq α] [LawfulBEq α] (ks : List α)
    (k : α) (v : β) :
    (ks.map (·, v)).lookup k = if k ∈ ks then some v else none := by
  induction ks with
  | nil => rfl
  | cons k' ks ih =>
      rw [List.map_cons, List.lookup_cons]
      by_cases h : k = k'
      · simp [h]
      · have hb : (k == k') = false := beq_false_of_ne h
        rw [hb, ih]
        simp [h]

/-- Looking past places that are left out. -/
lemma lookup_filter_not_contains {k : List String} {ks : List (List String)}
    (h : k ∉ ks) (nodes : List (List String × Node)) :
    (nodes.filter fun e => !ks.contains e.1).lookup k = nodes.lookup k := by
  induction nodes with
  | nil => rfl
  | cons e nodes ih =>
      by_cases hmem : e.1 ∈ ks
      · have hb : (k == e.1) = false :=
          beq_false_of_ne fun hk => h (hk ▸ hmem)
        rw [List.filter_cons_of_neg (by simpa using hmem), ih, List.lookup_cons,
          hb]
      · rw [List.filter_cons_of_pos (by simpa using hmem), List.lookup_cons, ih,
          List.lookup_cons]

/-- Writing a file at all of its places. -/
lemma holds_setContents (hplace : place ≠ []) (bytes : List UInt8) :
    t.Holds place bytes (t.setContents place bytes) := by
  rw [setContents]
  split
  · exact holds_put hplace bytes
  · refine ⟨?_, fun names hnames => ?_, rfl⟩
    · have hempty : ¬place.isEmpty := by simpa using hplace
      rw [node?, if_neg hempty, List.lookup_append, lookup_map_const,
        if_pos (mem_twinsOf t place)]
      rfl
    · rw [node?, node?, List.lookup_append, lookup_map_const, if_neg hnames,
        lookup_filter_not_contains hnames]
      rfl

/-- A file is written where its path leads to, and never to a directory. -/
lemma locate_of_writable {path : String} (h : t.writable path = .ok place) :
    t.locate path = .ok place ∧ t.node? place ≠ some .directory := by
  rw [writable] at h
  split at h
  · cases h
  · next place' hplace =>
      split at h
      · cases h
      · next hnot =>
          cases h
          simp only [Bool.or_eq_true, decide_eq_true_eq, not_or,
            not_not] at hnot
          rw [hnot.1] at hplace
          exact ⟨hplace, hnot.2⟩

section Write

variable {path : String} {bytes : List UInt8}
  (hplace : t.writable path = .ok place)

include hplace

/-- What is written to a file is its contents. -/
theorem holds_of_write (hfree : t.IsFreeForFile place)
    (h : t.write path bytes = .ok t') : t.Holds place bytes t' := by
  have hroot : place ≠ [] := fun h =>
    (locate_of_writable hplace).2 (by rw [h]; rfl)
  simp only [write, hplace, writeAt] at h
  cases hn : t.node? place with
  | none =>
      rw [hn] at h
      cases h
      exact holds_put hroot bytes
  | some n =>
      obtain ⟨old, rfl⟩ := hfree n hn
      rw [hn] at h
      cases h
      exact holds_setContents hroot bytes

/-- What is written to a device is nowhere. -/
theorem eq_of_write (hdevice : ¬t.IsFreeForFile place)
    (h : t.write path bytes = .ok t') : t' = t := by
  simp only [write, hplace, writeAt] at h
  split at h
  · cases h
  · split at h
    · exact (Except.ok.inj h).symm
    · cases h
  · next old hn =>
      refine absurd (fun n hn' => ⟨old, ?_⟩) hdevice
      exact Option.some.inj (hn'.symm.trans hn)
  · exact (Except.ok.inj h).symm
  · next hn => exact absurd (fun n hn' => by rw [hn] at hn'; cases hn') hdevice

end Write

/-- Bytes can be written everywhere but to a directory and a full device. -/
lemma exists_writeAt_iff {bytes : List UInt8} :
    (∃ s, t.writeAt place bytes = .ok s) ↔
      t.node? place ≠ some .directory ∧
        (t.node? place = some .full → bytes = []) := by
  rw [writeAt]
  rcases t.node? place with _ | n
  · simp
  · cases n <;> cases bytes <;> simp

/-- Whether something can be written depends on what stands where, and on
nothing else. -/
lemma SameFiles.exists_write (h : t.SameFiles t') {path : String}
    {bytes : List UInt8} (hw : ∃ s, t.write path bytes = .ok s) :
    ∃ s, t'.write path bytes = .ok s := by
  simp only [write, h.writable] at hw ⊢
  split at hw
  · exact hw
  · rw [exists_writeAt_iff] at hw ⊢
    rwa [h.node?]

end BitProbe.FileTree

namespace BitProbe

variable {σ : Type}

open FileTree (SameFiles)

/-! ### Disassemblers -/

/-- Programs after which the same stands everywhere. -/
def Tools.LeaveFiles (tools : Tools σ) : Prop :=
  ∀ tool args timeoutMs (w : World σ),
    w.1.SameFiles (tools tool args timeoutMs w).2.1

namespace Disassembler

/-! ### Names of scratch files -/

/-- Different numbers make different names. -/
lemma scratchName_injective (i : Invocation) :
    Function.Injective (scratchName i) := by
  intro m n h
  have hchars := congrArg String.toList h
  simp only [scratchName, String.toList_append, String.toList_ofList,
    List.append_cancel_right_eq, List.append_cancel_left_eq] at hchars
  have hvalue := congrArg (Text.value? Text.decimalDigit? 10 · 0) hchars
  simpa only [Text.value?_leftpad_decimal, Option.some.injEq] using hvalue

/-- A scratch file's name is not in use. -/
theorem freshName_not_mem (i : Invocation) (t : FileTree) :
    freshName i t ∉ t.children FileTree.scratchDirectory := by
  set used := t.children FileTree.scratchDirectory with hused
  set names := (List.range (used.length + 1)).map (scratchName i) with hnames
  have hfresh : freshName i t =
      (names.find? fun n => !used.contains n).getD (scratchName i 0) := rfl
  -- there are more names than names in use
  have hfree : ∃ n ∈ names, n ∉ used := by
    by_contra hall
    push Not at hall
    have hnodup : names.Nodup :=
      List.nodup_range.map (scratchName_injective i)
    have hle := (hnodup.subperm hall).length_le
    rw [hnames, List.length_map, List.length_range] at hle
    omega
  obtain ⟨n, hn, hnot⟩ := hfree
  cases hfind : names.find? fun n => !used.contains n with
  | none =>
      have hin := List.find?_eq_none.1 hfind n hn
      simp [hnot] at hin
  | some m =>
      rw [hfresh, hfind]
      have hm := List.find?_some hfind
      simpa using hm

/-- Nothing stands where a scratch file is put. -/
lemma node?_freshName (i : Invocation) (t : FileTree) :
    t.node? (FileTree.scratchDirectory ++ [freshName i t]) = none := by
  rw [FileTree.node?, if_neg (by simp), List.lookup_eq_none_iff]
  intro e he
  refine bne_iff_ne.2 fun hplace => freshName_not_mem i t ?_
  rw [FileTree.children, List.mem_filterMap]
  exact ⟨e, he, by simp [← hplace]⟩

/-! ### Runs -/

/-- The check is a run. -/
lemma snd_check (d : Disassembler) (tools : Tools σ) (w : World σ) :
    (d.check tools w).2 = (d.run tools ["--version"] w).2 := by
  rw [check]
  split <;> next heq => rw [heq]

variable {tools : Tools σ} (htools : tools.LeaveFiles) (d : Disassembler)

include htools

/-- The check leaves files alone. -/
lemma sameFiles_check (w : World σ) :
    w.1.SameFiles (d.check tools w).2.1 := by
  rw [snd_check]
  exact htools _ _ _ w

/-- A run on a word leaves files alone. -/
lemma sameFiles_attempt (word : Word) (w : World σ) :
    w.1.SameFiles (d.attempt tools word w).2.1 := by
  rw [attempt]
  split
  · exact SameFiles.refl w.1
  · next image _ =>
      let place := FileTree.scratchDirectory ++
        [freshName d.profile.invocation w.1]
      let scratch := w.1.put place (.file image)
      have hrun : ∀ args, scratch.SameFiles
          (d.run tools args (scratch.setMode place 0o600, w.2)).2.1 :=
        fun args => (FileTree.sameFiles_setMode scratch place 0o600).trans
          (htools _ args _ (scratch.setMode place 0o600, w.2))
      exact .of_remove (by simp) (node?_freshName _ _) (hrun _)

/-- So do as many runs as are allowed. -/
theorem keeps_oracle (t : FileTree) :
    (d.oracle tools).Keeps fun w => t.SameFiles w.1 := by
  have hattempt : (d.attempt tools).Keeps fun w => t.SameFiles w.1 :=
    fun word w h => h.trans (sameFiles_attempt htools d word w)
  intro word w h
  obtain ⟨n, hn⟩ := exists_oracle_eq d tools word w
  rw [hn]
  exact Oracle.after_induction (P := fun v : World σ => t.SameFiles v.1) h
    (hattempt word) (n + 1)

end Disassembler

end BitProbe
