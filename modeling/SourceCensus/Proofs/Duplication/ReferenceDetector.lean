import SourceCensus.Proofs.Duplication.DetectedBlocks

/-! # A detector without hashes -/

namespace SourceCensus.Duplication

open LocationSet (shift)

variable {files : List CodeFile} {k m : Int} {s : LocationSet}

/-- Windows of `k` lines with different texts have different hashes. -/
def CollisionFree (k : Int) (files : List CodeFile) : Prop :=
  ∀ a ∈ places k files, ∀ b ∈ places k files,
    Digest.hashWindow (textOf files k a) = Digest.hashWindow (textOf files k b) →
      textOf files k a = textOf files k b

instance : Decidable (CollisionFree k files) :=
  inferInstanceAs (Decidable (∀ a ∈ places k files, ∀ b ∈ places k files,
    Digest.hashWindow (textOf files k a) = Digest.hashWindow (textOf files k b) →
      textOf files k a = textOf files k b))

/-- The set is the list of all places of the text that its windows have. -/
def IsOccurrenceList (k : Int) (files : List CodeFile) (s : LocationSet) : Prop :=
  ∃ a ∈ s, s = occurrences k files (textOf files k a)

/-- A block that the reference detector reports. -/
structure IsReferenceBlock (k m : Int) (files : List CodeFile) (b : Block) : Prop where
  le_size : k ≤ b.size
  two_le_length : 2 ≤ b.start.length
  length_le : (b.start.length : Int) ≤ m
  windows : ∀ j : Int, 0 ≤ j → j ≤ b.size - k → IsOccurrenceList k files (shift j b.start)
  before : ¬ IsOccurrenceList k files (shift (-1) b.start)
  after : ¬ IsOccurrenceList k files (shift (b.size - k + 1) b.start)

/-- Without collisions the confirmed sets are the occurrence lists within the bounds. -/
theorem mem_confirmedSets_of_collisionFree (hc : CollisionFree k files) :
    s ∈ confirmedSets k m files ↔
      2 ≤ s.length ∧ (s.length : Int) ≤ m ∧ IsOccurrenceList k files s := by
  rw [mem_confirmedSets]
  refine and_congr_right fun h₂ => and_congr_right fun _ => ?_
  constructor
  · rintro ⟨w, hs, -⟩
    obtain ⟨a, ha⟩ := List.exists_mem_of_length_pos (Nat.lt_of_lt_of_le Nat.two_pos h₂)
    refine ⟨a, ha, ?_⟩
    rw [hs] at ha
    rw [(mem_occurrences.mp ha).2, hs]
  · rintro ⟨a, ha, hs⟩
    refine ⟨_, hs, fun b hb hh => ?_⟩
    rw [hs] at ha
    exact hc b (mem_places.mpr hb) a (mem_places.mpr (mem_occurrences.mp ha).1) hh

theorem shift_mem_confirmedSets_iff (hc : CollisionFree k files) (h₂ : 2 ≤ s.length)
    (hm : (s.length : Int) ≤ m) (j : Int) :
    shift j s ∈ confirmedSets k m files ↔ IsOccurrenceList k files (shift j s) := by
  rw [mem_confirmedSets_of_collisionFree hc, LocationSet.length_shift]
  exact ⟨fun h => h.2.2, fun h => ⟨h₂, hm, h⟩⟩

/-- Without collisions the reference blocks are the maximal runs of confirmed sets. -/
theorem isReferenceBlock_iff (hc : CollisionFree k files) {b : Block} :
    IsReferenceBlock k m files b ↔
      ∃ last : Nat, b.size = k + last ∧ MaximalRun (confirmedSets k m files) b.start last := by
  constructor
  · intro h
    have hiff := shift_mem_confirmedSets_iff hc h.two_le_length h.length_le
    have hle := h.le_size
    refine ⟨(b.size - k).toNat, by omega, ?_⟩
    constructor
    · intro j hj
      exact (hiff j).mpr (h.windows j (by omega) (by omega))
    · exact fun hmem => h.before ((hiff _).mp hmem)
    · intro hmem
      apply h.after
      rw [← hiff]
      convert hmem using 2
      omega
  · rintro ⟨last, hsize, hrun⟩
    obtain ⟨h₂, hm, -⟩ := mem_confirmedSets.mp hrun.start_mem
    have hiff := shift_mem_confirmedSets_iff hc h₂ hm
    constructor
    · omega
    · exact h₂
    · exact hm
    · intro j hj hjk
      lift j to ℕ using hj
      exact (hiff j).mp (hrun.mem j (by omega))
    · exact fun h => hrun.before ((hiff _).mpr h)
    · intro h
      apply hrun.after
      rw [hiff]
      convert h using 2
      omega

/-- A search without collisions sorts the groups of all reference blocks, each taken once and in
increasing order of their starts. -/
theorem detect_eq_reference (settings : Settings) (files : List CodeFile)
    (hk : 1 ≤ settings.minLines) (hm : 2 ≤ settings.maxOccurrences)
    (hc : CollisionFree settings.minLines files) :
    ∃ blocks : List Block, ∃ groups result,
      (blocks.map Block.start).Pairwise (· < ·) ∧
      (∀ b, b ∈ blocks ↔
        IsReferenceBlock settings.minLines settings.maxOccurrences files b) ∧
      blocks.mapM (fun b => groupAt files b.size b.start) = .ok groups ∧
      sortGroups groups = .ok result ∧ (detect settings files).outcome = .ok result := by
  let sets := confirmedSets settings.minLines settings.maxOccurrences files
  have hmem : ∀ s, s ∈ LocationSet.sorted sets ↔ s ∈ sets := fun s => LocationSet.mem_sorted
  have hsub : ∀ s ∈ LocationSet.sorted sets, s ∈ sets := fun s => (hmem s).mp
  let blocks := loopBlocks settings.minLines settings.maxOccurrences files (LocationSet.sorted sets)
  refine ⟨blocks, blocks.map (Block.group files), _, ?_, ?_, ?_, ?_, outcome_detect hk hm files⟩
  · exact pairwise_start_loopBlocks _ _ files
  · intro b
    rw [isReferenceBlock_iff hc, mem_loopBlocks hmem]
  · exact mapM_eq_ok fun b hb => (repeats_of_mem_loopBlocks hsub hk hb).groupAt_eq
  · exact sortGroups_loopBlocks hsub hk

/-- The sample project has no collisions, and its reference blocks are sorted into the two groups
that the search finds. -/
theorem sampleFiles_eq_reference : CollisionFree 1 sampleFiles ∧ ∃ blocks : List Block, ∃ groups,
    (blocks.map Block.start).Pairwise (· < ·) ∧
    (∀ b, b ∈ blocks ↔ IsReferenceBlock 1 2 sampleFiles b) ∧
    blocks.mapM (fun b => groupAt sampleFiles b.size b.start) = .ok groups ∧
    sortGroups groups = .ok sampleGroups := by
  have hc : CollisionFree 1 sampleFiles := by decide +kernel
  obtain ⟨blocks, groups, result, hs, hb, hg, hr, hd⟩ :=
    detect_eq_reference sampleSettings sampleFiles (by decide) (by decide) hc
  rw [outcome_detect_sampleFiles] at hd
  obtain rfl := Except.ok.inj hd
  exact ⟨hc, blocks, groups, hs, hb, hg, hr⟩

end SourceCensus.Duplication
