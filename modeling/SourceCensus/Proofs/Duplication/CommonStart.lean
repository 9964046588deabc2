import Mathlib.Order.Bounds.Basic
import SourceCensus.Duplication.Detection
import SourceCensus.Proofs.Duplication.Blocks

/-! # The common start of a set of locations -/

namespace SourceCensus.Duplication

variable {files : List CodeFile} {a : Location} {s t : LocationSet} {n : Nat}

section Lengths

theorem le_commonLength_iff {xs ys : List (List Char)} :
    n ≤ commonLength xs ys ↔ n ≤ xs.length ∧ n ≤ ys.length ∧ xs.take n = ys.take n := by
  induction xs generalizing ys n with
  | nil =>
    rw [commonLength_nil_left, List.length_nil]
    constructor
    · intro h
      obtain rfl := Nat.le_zero.mp h
      simp
    · exact fun h => h.1
  | cons x xs ih =>
    cases ys with
    | nil =>
      rw [commonLength_nil_right, List.length_nil]
      constructor
      · intro h
        obtain rfl := Nat.le_zero.mp h
        simp
      · exact fun h => h.2.1
    | cons y ys =>
      cases n with
      | zero => simp
      | succ n =>
        by_cases hxy : x = y
        · simp [commonLength, hxy, ih]
        · simp [commonLength, hxy]

theorem le_foldl_min_iff {m : Nat} {xs : List Nat} :
    n ≤ xs.foldl min m ↔ n ≤ m ∧ ∀ x ∈ xs, n ≤ x := by
  induction xs generalizing m with
  | nil => simp
  | cons x xs ih => rw [List.foldl_cons, ih, Nat.le_min, List.forall_mem_cons, and_assoc]

end Lengths

/-- The result of verification as a total function. -/
def commonSize (files : List CodeFile) (size : Int) : LocationSet → Nat
  | [] => 0
  | first :: others =>
    (others.map fun a => commonLength (textOf files size first) (textOf files size a)).foldl min
      (textOf files size first).length

theorem le_commonSize_iff {size : Int} (hs : s ≠ []) : n ≤ commonSize files size s ↔
    ∀ a ∈ s, n ≤ (textOf files size a).length ∧
      ∀ c ∈ s, (textOf files size a).take n = (textOf files size c).take n := by
  obtain ⟨first, others, rfl⟩ := List.exists_cons_of_ne_nil hs
  simp only [commonSize, le_foldl_min_iff, List.forall_mem_map, le_commonLength_iff]
  constructor
  · rintro ⟨hfirst, hothers⟩
    have hall : ∀ a ∈ first :: others, n ≤ (textOf files size a).length ∧
        (textOf files size first).take n = (textOf files size a).take n := by
      intro a ha
      rcases List.mem_cons.mp ha with rfl | ha
      · exact ⟨hfirst, rfl⟩
      · exact (hothers a ha).2
    intro a ha
    refine ⟨(hall a ha).1, fun c hc => ?_⟩
    rw [← (hall a ha).2, (hall c hc).2]
  · intro h
    obtain ⟨hfirst, hsame⟩ := h first List.mem_cons_self
    refine ⟨hfirst, fun a ha => ⟨hfirst, (h a (List.mem_cons_of_mem first ha)).1, ?_⟩⟩
    exact hsame a (List.mem_cons_of_mem first ha)

/-- A set whose lines can be read: it has a location, and each of them is in a file of the project, which
may be counted from the end, at an offset that may not. -/
structure Readable (files : List CodeFile) (s : LocationSet) : Prop where
  ne_nil : s ≠ []
  file_bounds : ∀ a ∈ s, -(files.length : Int) ≤ a.file ∧ a.file < files.length
  offset_nonneg : ∀ a ∈ s, 0 ≤ a.offset

instance : Decidable (Readable files s) :=
  decidable_of_iff (s ≠ [] ∧ (∀ a ∈ s, -(files.length : Int) ≤ a.file ∧ a.file < files.length) ∧
      ∀ a ∈ s, 0 ≤ a.offset)
    ⟨fun h => ⟨h.1, h.2.1, h.2.2⟩, fun h => ⟨h.ne_nil, h.file_bounds, h.offset_nonneg⟩⟩

namespace Readable

theorem perm (h : Readable files s) (hperm : s.Perm t) : Readable files t where
  ne_nil hnil := h.ne_nil (by simpa [hnil] using hperm)
  file_bounds a ha := h.file_bounds a (hperm.mem_iff.mpr ha)
  offset_nonneg a ha := h.offset_nonneg a (hperm.mem_iff.mpr ha)

theorem exists_fileAt (h : Readable files s) (ha : a ∈ s) : ∃ file, fileAt files a = .ok file := by
  obtain ⟨hlow, hhigh⟩ := h.file_bounds a ha
  have hitem : ∃ file, Sequence.item? files a.file = some file := by
    unfold Sequence.item?
    split_ifs with hneg hback
    · exact ⟨_, List.getElem?_eq_getElem (by omega)⟩
    · omega
    · exact ⟨_, List.getElem?_eq_getElem (by omega)⟩
  obtain ⟨file, hfile⟩ := hitem
  exact ⟨file, by simp [fileAt, hfile]⟩

theorem verifiedSize_eq_ok (h : Readable files s) (size : Int) :
    verifiedSize files size s = .ok (commonSize files size s) := by
  obtain ⟨first, others, rfl⟩ := List.exists_cons_of_ne_nil h.ne_nil
  obtain ⟨file, hfile⟩ := h.exists_fileAt (List.mem_cons_self)
  have hothers : others.mapM (fun a => do
      return commonLength (textOf files size first) (← textsAt files size a)) =
        .ok (others.map fun a => commonLength (textOf files size first) (textOf files size a)) := by
    apply mapM_eq_ok
    intro a ha
    obtain ⟨file, hfile⟩ := h.exists_fileAt (List.mem_cons_of_mem first ha)
    rw [textsAt_eq_ok hfile, ok_bind]
    rfl
  rw [verifiedSize, textsAt_eq_ok hfile, ok_bind, hothers]
  rfl

theorem verify_eq (h : Readable files s) (size : Int) :
    verify files size s = do
      Run.noteIf (commonSize files size s < size) (.blockShrunk size (commonSize files size s))
      return commonSize files size s := by
  rw [verify, h.verifiedSize_eq_ok, Run.ofExcept_ok, pure_bind]

theorem outcome_verify (h : Readable files s) (size : Int) :
    (verify files size s).outcome = .ok (commonSize files size s) := by
  rw [h.verify_eq, Run.outcome_bind, Run.outcome_noteIf, ok_bind, Run.outcome_pure]

end Readable

namespace Block.Repeats

variable {b : Block}

theorem readable (h : b.Repeats files) : Readable files b.start where
  ne_nil := h.ne_nil
  file_bounds a ha := by
    obtain ⟨hp, file, hf, -⟩ := h.fits a ha
    have hnonneg := hp.1
    have hlt := (List.getElem?_eq_some_iff.mp hf).1
    omega
  offset_nonneg a ha := (h.fits a ha).placed.2

theorem commonSize_eq (h : b.Repeats files) : commonSize files b.size b.start = b.size.toNat := by
  have hpos := h.pos
  have hlength : ∀ a ∈ b.start, (textOf files b.size a).length = b.size.toNat := by
    intro a ha
    have hlength := (h.fits a ha).length_textOf (by omega)
    omega
  apply eq_of_forall_le_iff
  intro n
  rw [le_commonSize_iff h.ne_nil]
  constructor
  · intro hn
    obtain ⟨a, ha⟩ := List.exists_mem_of_ne_nil _ h.ne_nil
    exact hlength a ha ▸ (hn a ha).1
  · intro hn a ha
    exact ⟨(hlength a ha).symm ▸ hn, fun c hc => by rw [h.same a ha c hc]⟩

/-- Verification measures the whole of a repeated block and gives no notice. -/
theorem verify_eq_pure (h : b.Repeats files) :
    verify files b.size b.start = pure b.size.toNat := by
  have hsize : decide ((b.size.toNat : Int) < b.size) = false := by
    simp only [decide_eq_false_iff_not]
    omega
  rw [h.readable.verify_eq, h.commonSize_eq, hsize, Run.noteIf_false, pure_bind]

end Block.Repeats

/-- The texts of the lines from a location to the end of its file. -/
def textsFrom (files : List CodeFile) (a : Location) : List (List Char) :=
  match fileAt files a with
  | .ok file => (file.lines.drop a.offset.toNat).map (·.text)
  | .error _ => []

/-- At least `n` lines follow each location of a set, with the same text at all of them. -/
structure Shared (files : List CodeFile) (s : LocationSet) (n : Nat) : Prop where
  follow : ∀ a ∈ s, n ≤ (textsFrom files a).length
  same : ∀ a ∈ s, ∀ c ∈ s, (textsFrom files a).take n = (textsFrom files c).take n

theorem Shared.perm (h : Shared files s n) (hperm : s.Perm t) : Shared files t n where
  follow a ha := h.follow a (hperm.mem_iff.mpr ha)
  same a ha c hc := h.same a (hperm.mem_iff.mpr ha) c (hperm.mem_iff.mpr hc)

/-- A block is what follows its location, cut off. -/
theorem textOf_eq_take (h : 0 ≤ a.offset) (size : Nat) :
    textOf files size a = (textsFrom files a).take size := by
  unfold textOf linesAt textsFrom
  cases fileAt files a with
  | error => simp
  | ok file =>
    simp only [CodeFile.block, Sequence.slice_add_of_nonneg _ h (Int.natCast_nonneg size),
      Int.toNat_natCast, List.map_take]

namespace Readable

variable {size bound : Nat} (h : Readable files s)
include h

/-- A number of lines is verified exactly when it is asked for and shared. -/
theorem le_commonSize_iff_shared :
    n ≤ commonSize files size s ↔ n ≤ size ∧ Shared files s n := by
  have htext : ∀ a ∈ s, textOf files size a = (textsFrom files a).take size :=
    fun a ha => textOf_eq_take (h.offset_nonneg a ha) size
  have htake : ∀ a ∈ s, n ≤ size → (textOf files size a).take n = (textsFrom files a).take n := by
    intro a ha hn
    rw [htext a ha, List.take_take, Nat.min_eq_left hn]
  rw [le_commonSize_iff h.ne_nil]
  constructor
  · intro hall
    have hlength : ∀ a ∈ s, n ≤ size ∧ n ≤ (textsFrom files a).length := by
      intro a ha
      have hle := (hall a ha).1
      rwa [htext a ha, List.length_take, Nat.le_min] at hle
    obtain ⟨first, hfirst⟩ := List.exists_mem_of_ne_nil s h.ne_nil
    have hn := (hlength first hfirst).1
    refine ⟨hn, fun a ha => (hlength a ha).2, fun a ha c hc => ?_⟩
    rw [← htake a ha hn, ← htake c hc hn]
    exact (hall a ha).2 c hc
  · rintro ⟨hn, hshared⟩ a ha
    refine ⟨?_, fun c hc => ?_⟩
    · rw [htext a ha, List.length_take]
      exact Nat.le_min.mpr ⟨hn, hshared.follow a ha⟩
    · rw [htake a ha hn, htake c hc hn]
      exact hshared.same a ha c hc

theorem isGreatest_commonSize (size : Nat) :
    IsGreatest {n | n ≤ size ∧ Shared files s n} (commonSize files size s) := by
  constructor
  · exact h.le_commonSize_iff_shared.mp (Nat.le_refl _)
  · intro n hn
    exact h.le_commonSize_iff_shared.mpr hn

theorem commonSize_eq_of_perm (hperm : s.Perm t) (size : Nat) :
    commonSize files size t = commonSize files size s := by
  apply eq_of_forall_le_iff
  intro n
  rw [(h.perm hperm).le_commonSize_iff_shared, h.le_commonSize_iff_shared]
  exact and_congr_right fun _ => ⟨fun hs => hs.perm hperm.symm, fun hs => hs.perm hperm⟩

theorem commonSize_eq_min (hle : size ≤ bound) :
    commonSize files size s = min size (commonSize files bound s) := by
  apply eq_of_forall_le_iff
  intro n
  rw [Nat.le_min, h.le_commonSize_iff_shared, h.le_commonSize_iff_shared]
  exact and_congr_right fun hn => (and_iff_right (hn.trans hle)).symm

end Readable

/-- Verification of a set of locations that have files succeeds with the greatest number of lines, of
those asked for, that are there at all locations with the same text.  In another order of the locations
it runs the same, and fewer lines asked for are verified as far as more are. -/
theorem verification_measures_common_start (h : Readable files s) :
    (∀ size : Nat, ∃ v, (verify files size s).outcome = .ok v ∧
      IsGreatest {n | n ≤ size ∧ Shared files s n} v) ∧
    (∀ t, s.Perm t → ∀ size : Nat, verify files size t = verify files size s) ∧
    ∀ size bound : Nat, size ≤ bound →
      (verify files size s).outcome = (min size ·) <$> (verify files bound s).outcome := by
  refine ⟨fun size => ⟨_, h.outcome_verify size, h.isGreatest_commonSize size⟩, ?_, ?_⟩
  · intro t hperm size
    rw [(h.perm hperm).verify_eq, h.verify_eq, h.commonSize_eq_of_perm hperm]
  · intro size bound hle
    rw [h.outcome_verify, h.outcome_verify, map_ok, h.commonSize_eq_min hle]

/-- Two files that share two lines, the second of which ends with them. -/
def clippedFiles : List CodeFile :=
  [⟨⟨.relative, ["a"]⟩, [⟨1, ['x']⟩, ⟨2, ['y']⟩, ⟨4, ['z']⟩]⟩,
    ⟨⟨.relative, ["b"]⟩, [⟨1, ['w']⟩, ⟨3, ['x']⟩, ⟨5, ['y']⟩]⟩]

/-- Of blocks that are cut off at different lengths, one of them in a file that is counted from the end,
two lines are shared, in either order, and one of them if one is asked for. -/
theorem clipped_common_start :
    Readable clippedFiles [⟨0, 0⟩, ⟨-1, 1⟩] ∧
      IsGreatest {n | n ≤ 9 ∧ Shared clippedFiles [⟨0, 0⟩, ⟨-1, 1⟩] n} 2 ∧
      (verify clippedFiles (9 : Nat) [⟨-1, 1⟩, ⟨0, 0⟩]).outcome = .ok 2 ∧
      (verify clippedFiles (1 : Nat) [⟨0, 0⟩, ⟨-1, 1⟩]).outcome = .ok 1 := by
  have h : Readable clippedFiles [⟨0, 0⟩, ⟨-1, 1⟩] := by decide
  obtain ⟨hgreatest, horder, hfewer⟩ := verification_measures_common_start h
  have hverify : (verify clippedFiles (9 : Nat) [⟨0, 0⟩, ⟨-1, 1⟩]).outcome = .ok 2 := by decide
  obtain ⟨v, hv, hcommon⟩ := hgreatest 9
  obtain rfl : 2 = v := Except.ok.inj (hverify.symm.trans hv)
  refine ⟨h, hcommon, ?_, ?_⟩
  · rw [horder _ (List.Perm.swap _ _ _), hverify]
  · rw [hfewer 1 9 (by decide), hverify]
    rfl

end SourceCensus.Duplication
