import Mathlib.Algebra.Module.Submodule.Lattice
import Mathlib.Data.List.Permutation
import SourceCensus.Proofs.Duplication.ConfirmedSets
import SourceCensus.Proofs.Duplication.GroupOrder
import SourceCensus.Proofs.Duplication.Loop

/-! # The blocks that a search detects -/

namespace SourceCensus.Duplication

open LocationSet (shift)

variable {files : List CodeFile} {k m : Int} {s start : LocationSet} {last : Nat}

theorem placed_confirmedSets (k m : Int) (files : List CodeFile) :
    Placed (confirmedSets k m files) := by
  intro s hs
  obtain ⟨h₂, -, -⟩ := mem_confirmedSets.mp hs
  refine ⟨fun hnil => ?_, fun a ha => (fits_of_mem_confirmedSets hs ha).placed.2⟩
  rw [hnil, List.length_nil] at h₂
  omega

theorem textOf_eq_of_mem_confirmedSets {a b : Location} (hs : s ∈ confirmedSets k m files)
    (ha : a ∈ s) (hb : b ∈ s) : textOf files k a = textOf files k b := by
  obtain ⟨-, -, w, rfl, -⟩ := mem_confirmedSets.mp hs
  rw [(mem_occurrences.mp ha).2, (mem_occurrences.mp hb).2]

section Runs

variable (h : ∀ j : Nat, j ≤ last → shift j start ∈ confirmedSets k m files)
include h

theorem fits_of_run {a : Location} (ha : a ∈ start) : Fits files (k + last) a := by
  have hfirst : Fits files k (Location.shift (0 : Nat) a) :=
    fits_of_mem_confirmedSets (h 0 (Nat.zero_le _)) (LocationSet.mem_shift.mpr ha)
  have hlast : Fits files k (Location.shift (last : Int) a) :=
    fits_of_mem_confirmedSets (h last (Nat.le_refl _)) (LocationSet.mem_shift.mpr ha)
  refine Fits.of_last_window (k := k) (by simpa using hfirst) ?_
  rwa [show k + last - k = (last : Int) by omega]

theorem textOf_eq_of_run (hk : 1 ≤ k) {a b : Location} (ha : a ∈ start) (hb : b ∈ start) :
    textOf files (k + last) a = textOf files (k + last) b := by
  refine textOf_eq_of_windows (fits_of_run h ha) (fits_of_run h hb) hk (by omega) fun j hj hjl => ?_
  lift j to ℕ using hj
  exact textOf_eq_of_mem_confirmedSets (h j (by omega)) (LocationSet.mem_shift.mpr ha)
    (LocationSet.mem_shift.mpr hb)

theorem repeats_of_run (hk : 1 ≤ k) {b : Block} (hstart : b.start = start)
    (hsize : b.size = k + last) : b.Repeats files := by
  have hne := (placed_confirmedSets k m files _ (h 0 (Nat.zero_le _))).1
  constructor
  · rw [hstart]
    simpa using hne
  · omega
  · intro a ha
    rw [hstart] at ha
    rw [hsize]
    exact fits_of_run h ha
  · intro a ha c hc
    rw [hstart] at ha hc
    rw [hsize]
    exact textOf_eq_of_run h hk ha hc

/-- The block of a run stands at the locations of the run and nowhere else. -/
theorem start_eq_occurrences (hk : 1 ≤ k) {a : Location} (ha : a ∈ start) :
    start = occurrences (k + last) files (textOf files (k + last) a) := by
  have hstart : start ∈ confirmedSets k m files := by simpa using h 0 (Nat.zero_le _)
  obtain ⟨-, -, w, hw, -⟩ := mem_confirmedSets.mp hstart
  have hsorted : start.Pairwise (· < ·) := hw ▸ pairwise_occurrences k files w
  refine LocationSet.eq_of_pairwise_lt hsorted (pairwise_occurrences _ files _) fun b => ?_
  rw [mem_occurrences]
  constructor
  · intro hb
    exact ⟨fits_of_run h hb, textOf_eq_of_run h hk hb ha⟩
  · rintro ⟨hb, ht⟩
    have hbk : textOf files k b = textOf files k a := by
      rw [textOf_of_le hb.placed (by omega) (by omega : k ≤ k + last), ht,
        ← textOf_of_le (fits_of_run h ha).placed (by omega) (by omega)]
    have hfit : Fits files k b := by
      simpa using hb.shift (Int.le_refl 0) (by omega : 0 + k ≤ k + last)
    rw [hw] at ha ⊢
    exact mem_occurrences.mpr ⟨hfit, hbk.trans (mem_occurrences.mp ha).2⟩

end Runs

theorem maximalRun_blockAround (hs : s ∈ confirmedSets k m files) :
    MaximalRun (confirmedSets k m files) (blockAround k (confirmedSets k m files) s).start
      ((backward (confirmedSets k m files) s).length +
        (forward (confirmedSets k m files) s).length) := by
  rw [start_blockAround]
  exact maximalRun_chainStart (placed_confirmedSets k m files) hs

theorem repeats_blockAround (hk : 1 ≤ k) (hs : s ∈ confirmedSets k m files) :
    (blockAround k (confirmedSets k m files) s).Repeats files :=
  repeats_of_run (maximalRun_blockAround hs).mem hk rfl (size_blockAround k _ s)

/-- The judged buckets of a project, as a search finds them. -/
theorem outcome_confirm_index (settings : Settings) (files : List CodeFile) :
    (index settings.minLines files >>= confirm settings files).outcome =
      .ok (validationOf files settings.minLines settings.maxOccurrences
        (fingerprints settings.minLines files)) := by
  rw [Run.outcome_bind, outcome_index, ok_bind]
  exact outcome_confirm fun entry he a ha => (fits_of_mem_fingerprints he ha).exists_fileAt

theorem check_eq_ok {settings : Settings} (hk : 1 ≤ settings.minLines)
    (hm : 2 ≤ settings.maxOccurrences) : settings.check = .ok () := by
  rw [Settings.check, if_neg (by omega), if_neg (by omega)]

theorem outcome_detect_eq_detectFrom {settings : Settings} (hk : 1 ≤ settings.minLines)
    (hm : 2 ≤ settings.maxOccurrences) (files : List CodeFile) :
    (detect settings files).outcome =
      (detectFrom files settings.minLines
        (confirmedSets settings.minLines settings.maxOccurrences files)
        (LocationSet.sorted
          (confirmedSets settings.minLines settings.maxOccurrences files))).outcome := by
  have hv := outcome_confirm_index settings files
  rw [Run.outcome_bind] at hv
  simp only [detect, Run.outcome_bind, Run.outcome_ofExcept, check_eq_ok hk hm, ok_bind]
  rw [← bind_assoc, hv, ok_bind]
  rfl

theorem Block.sortKey_group {b : Block} {first : Location} {rest : List Location}
    (hs : b.start = first :: rest) :
    (b.group files).sortKey = .ok ⟨
      if Severity.criticalOccurrences ≤ (b.start.length : Int) then 0 else 1,
      - (b.group files).duplicatedLines, (occurrenceOf files b.size first).path,
      (occurrenceOf files b.size first).firstLine⟩ := by
  have hrank : (Severity.ofCount b.start.length).rank =
      .ok (if Severity.criticalOccurrences ≤ (b.start.length : Int) then 0 else 1) := by
    unfold Severity.ofCount
    split <;> rfl
  have hoccurrences : (b.group files).occurrences =
      occurrenceOf files b.size first :: rest.map (occurrenceOf files b.size) := by
    simp [Block.group, hs]
  have hseverity : (b.group files).severity = Severity.ofCount b.start.length := rfl
  rw [Group.sortKey, hoccurrences]
  simp only [hseverity, hrank, ok_bind]
  rfl

theorem Block.key_group {b : Block} {first : Location} {rest : List Location}
    (hs : b.start = first :: rest) :
    (b.group files).key = ⟨
      if Severity.criticalOccurrences ≤ (b.start.length : Int) then 0 else 1,
      - (b.group files).duplicatedLines, (occurrenceOf files b.size first).path,
      (occurrenceOf files b.size first).firstLine⟩ := by
  rw [Group.key, Block.sortKey_group hs]
  rfl

theorem Block.Repeats.sortKey_eq {b : Block} (h : b.Repeats files) :
    (b.group files).sortKey = .ok (b.group files).key := by
  obtain ⟨first, rest, hs⟩ := List.exists_cons_of_ne_nil h.ne_nil
  exact Group.sortKey_eq_ok (Block.sortKey_group hs)

/-- The blocks that the loop makes of the confirmed sets of a project, taken in the given order. -/
def loopBlocks (k m : Int) (files : List CodeFile) (ordered : List LocationSet) : List Block :=
  (roots (confirmedSets k m files) [] ordered).map (blockAround k (confirmedSets k m files))

theorem exists_of_mem_loopBlocks {ordered : List LocationSet} {b : Block}
    (hb : b ∈ loopBlocks k m files ordered) :
    ∃ s ∈ ordered, b = blockAround k (confirmedSets k m files) s := by
  obtain ⟨s, hs, rfl⟩ := List.mem_map.mp hb
  exact ⟨s, (mem_of_mem_roots hs).1, rfl⟩

theorem blockAround_eq_of_maximalRun {b : Block} (hs : s ∈ confirmedSets k m files)
    (hb : b.size = k + last) (hrun : MaximalRun (confirmedSets k m files) b.start last)
    (hmem : b.start ∈ runOf (confirmedSets k m files) s) :
    blockAround k (confirmedSets k m files) s = b := by
  obtain ⟨j, hj, heq⟩ := mem_shifts.mp hmem
  rw [← start_blockAround k] at heq
  have heq' : shift (0 : Nat) b.start =
      shift j (blockAround k (confirmedSets k m files) s).start := by simpa using heq
  obtain ⟨hstart, hlast⟩ :=
    hrun.eq_of_shift_eq (maximalRun_blockAround hs) (Nat.zero_le _) (by omega) heq'
  have hsize := size_blockAround k (confirmedSets k m files) s
  cases b
  cases h : blockAround k (confirmedSets k m files) s
  simp only [h, Block.mk.injEq] at *
  exact ⟨hstart.symm, by omega⟩

theorem nodup_loopBlocks (k m : Int) (files : List CodeFile) (ordered : List LocationSet) :
    (loopBlocks k m files ordered).Nodup := by
  refine List.pairwise_map.mpr (pairwise_roots.imp ?_)
  intro r r' hnot heq
  apply hnot
  rw [← windows_blockAround k, heq, windows_blockAround]
  exact self_mem_runOf

/-- The blocks of the loop are those of the maximal runs, in whatever order the sets are taken. -/
theorem mem_loopBlocks {ordered : List LocationSet} {b : Block}
    (hmem : ∀ s, s ∈ ordered ↔ s ∈ confirmedSets k m files) :
    b ∈ loopBlocks k m files ordered ↔
      ∃ last : Nat, b.size = k + last ∧ MaximalRun (confirmedSets k m files) b.start last := by
  constructor
  · intro hb
    obtain ⟨s, hs, rfl⟩ := exists_of_mem_loopBlocks hb
    exact ⟨_, size_blockAround _ _ s, maximalRun_blockAround ((hmem s).mp hs)⟩
  · rintro ⟨last, hsize, hrun⟩
    obtain ⟨r, hr, hin⟩ := exists_root_of_mem ((hmem _).mpr hrun.start_mem)
    refine List.mem_map.mpr ⟨r, hr, ?_⟩
    exact blockAround_eq_of_maximalRun ((hmem r).mp (mem_of_mem_roots hr).1) hsize hrun hin

section Orders

variable {ordered : List LocationSet} (hsub : ∀ s ∈ ordered, s ∈ confirmedSets k m files)
include hsub

theorem repeats_of_mem_loopBlocks (hk : 1 ≤ k) {b : Block}
    (hb : b ∈ loopBlocks k m files ordered) : b.Repeats files := by
  obtain ⟨s, hs, rfl⟩ := exists_of_mem_loopBlocks hb
  exact repeats_blockAround hk (hsub s hs)

theorem sortGroups_loopBlocks (hk : 1 ≤ k) :
    sortGroups ((loopBlocks k m files ordered).map (Block.group files)) =
      .ok (byKey ((loopBlocks k m files ordered).map (Block.group files))) := by
  apply sortGroups_eq_ok
  intro g hg
  obtain ⟨b, hb, rfl⟩ := List.mem_map.mp hg
  exact (repeats_of_mem_loopBlocks hsub hk hb).sortKey_eq

/-- Whatever the order of the confirmed sets, the search succeeds and sorts the groups of its
blocks. -/
theorem outcome_detectFrom_confirmedSets (hk : 1 ≤ k) :
    (detectFrom files k (confirmedSets k m files) ordered).outcome =
      .ok (byKey ((loopBlocks k m files ordered).map (Block.group files))) := by
  rw [outcome_detectFrom fun s hs => repeats_blockAround hk (hsub s hs),
    ← sortGroups_loopBlocks hsub hk, loopBlocks, List.map_map]
  rfl

end Orders

theorem outcome_detect {settings : Settings} (hk : 1 ≤ settings.minLines)
    (hm : 2 ≤ settings.maxOccurrences) (files : List CodeFile) :
    (detect settings files).outcome =
      .ok (byKey ((loopBlocks settings.minLines settings.maxOccurrences files
        (LocationSet.sorted (confirmedSets settings.minLines settings.maxOccurrences files))).map
          (Block.group files))) := by
  rw [outcome_detect_eq_detectFrom hk hm]
  exact outcome_detectFrom_confirmedSets (fun s hs => LocationSet.mem_sorted.mp hs) hk

theorem pairwise_sorted_confirmedSets (k m : Int) (files : List CodeFile) :
    (LocationSet.sorted (confirmedSets k m files)).Pairwise (· < ·) :=
  LocationSet.pairwise_sorted (nodup_confirmedSets k m files)

/-- A search meets the blocks in increasing order of their starts. -/
theorem pairwise_start_loopBlocks (k m : Int) (files : List CodeFile) :
    ((loopBlocks k m files (LocationSet.sorted (confirmedSets k m files))).map
      Block.start).Pairwise (· < ·) := by
  have hsorted := pairwise_sorted_confirmedSets k m files
  have hinv : LoopInvariant (confirmedSets k m files) []
      (LocationSet.sorted (confirmedSets k m files)) :=
    .of_sorted hsorted fun t => LocationSet.mem_sorted
  have hmap :
      (loopBlocks k m files (LocationSet.sorted (confirmedSets k m files))).map Block.start =
      roots (confirmedSets k m files) [] (LocationSet.sorted (confirmedSets k m files)) := by
    rw [loopBlocks, List.map_map]
    refine (List.map_congr_left fun r hr => ?_).trans (List.map_id _)
    rw [Function.comp_apply, start_blockAround, id]
    exact hinv.chainStart_eq_self_of_mem_roots (placed_confirmedSets k m files) hr
  rw [hmap]
  exact hsorted.sublist roots_sublist

/-- The blocks that a search meets are the increasing list of them: lists of blocks whose starts
increase are known by their members. -/
theorem loopBlocks_eq_of_mem_iff {blocks : List Block}
    (hsorted : blocks.Pairwise fun b b' => b.start < b'.start)
    (hmem : ∀ b, b ∈ loopBlocks k m files (LocationSet.sorted (confirmedSets k m files)) ↔
      b ∈ blocks) :
    loopBlocks k m files (LocationSet.sorted (confirmedSets k m files)) = blocks := by
  have hnodup : blocks.Nodup := by
    refine hsorted.imp ?_
    rintro b _ hlt rfl
    exact List.lt_irrefl b.start hlt
  have hperm := (List.perm_ext_iff_of_nodup (nodup_loopBlocks k m files _) hnodup).mpr hmem
  refine hperm.eq_of_pairwise ?_ (List.pairwise_map.mp (pairwise_start_loopBlocks k m files)) hsorted
  intro b b' _ _ hlt hgt
  exact absurd hgt (List.lt_asymm hlt)

/-- A project of three files: the first two share two lines, the first and the third share one. -/
def sampleFiles : List CodeFile :=
  [⟨⟨.relative, ["a"]⟩, [⟨1, ['x']⟩, ⟨2, ['y']⟩, ⟨4, ['z']⟩]⟩,
    ⟨⟨.relative, ["b"]⟩, [⟨1, ['w']⟩, ⟨3, ['x']⟩, ⟨5, ['y']⟩]⟩,
    ⟨⟨.relative, ["c"]⟩, [⟨2, ['z']⟩]⟩]

/-- A search of the sample project for blocks of one line or more that stand at two places. -/
def sampleSettings : Settings := { minLines := 1, maxOccurrences := 2 }

def sampleSets : List LocationSet :=
  [[⟨0, 0⟩, ⟨1, 1⟩], [⟨0, 1⟩, ⟨1, 2⟩], [⟨0, 2⟩, ⟨2, 0⟩]]

def sampleGroups : List Group :=
  [⟨[⟨"a", 1, 2⟩, ⟨"b", 3, 5⟩], 2, [['x'], ['y']], .tolerable⟩,
    ⟨[⟨"a", 4, 4⟩, ⟨"c", 2, 2⟩], 1, [['z']], .tolerable⟩]

theorem outcome_confirm_sampleFiles :
    (index sampleSettings.minLines sampleFiles >>= confirm sampleSettings sampleFiles).outcome.map
      (fun v => (v.confirmed.map (·.1), v.ordered)) = .ok (sampleSets, sampleSets) := by
  cbv

theorem outcome_detect_sampleFiles :
    (detect sampleSettings sampleFiles).outcome = .ok sampleGroups := by
  cbv

end SourceCensus.Duplication
