import SourceCensus.Proofs.Duplication.DetectedBlocks

/-! # Every confirmed window in one group -/

namespace SourceCensus.Duplication

variable {files : List CodeFile} {k m : Int} {confirmed ordered : List LocationSet}

theorem nodup_runOf (hp : Placed confirmed) {s : LocationSet} (hs : s ∈ confirmed) :
    (runOf confirmed s).Nodup :=
  nodup_shifts (maximalRun_chainStart hp hs).start_ne_nil _

/-- The runs of the blocks that the loop opens have no set in common. -/
theorem nodup_flatMap_runOf_roots (hp : Placed confirmed) (hsub : ∀ s ∈ ordered, s ∈ confirmed) :
    ((roots confirmed [] ordered).flatMap (runOf confirmed)).Nodup := by
  have hmem : ∀ r ∈ roots confirmed [] ordered, r ∈ confirmed :=
    fun r hr => hsub r (mem_of_mem_roots hr).1
  refine List.nodup_flatMap.mpr ⟨fun r hr => nodup_runOf hp (hmem r hr), ?_⟩
  refine pairwise_roots.imp_of_mem ?_
  intro r r' hr hr' hnot t ht ht'
  exact hnot (mem_runOf_of_common hp (hmem r' hr') (hmem r hr) ht' ht)

/-- The runs of the blocks that the loop opens make up the confirmed sets. -/
theorem mem_flatMap_runOf_roots (hp : Placed confirmed) (hmem : ∀ s, s ∈ ordered ↔ s ∈ confirmed)
    {t : LocationSet} :
    t ∈ (roots confirmed [] ordered).flatMap (runOf confirmed) ↔ t ∈ confirmed := by
  rw [List.mem_flatMap]
  constructor
  · rintro ⟨r, hr, ht⟩
    exact mem_of_mem_runOf hp ((hmem r).mp (mem_of_mem_roots hr).1) ht
  · intro ht
    exact exists_root_of_mem ((hmem t).mpr ht)

/-- The sets of the windows of an emitted block: the shifts of its start by up to as many lines as
it has beyond `k`. -/
def Emission.windows (k : Int) (e : Emission) : List LocationSet :=
  shifts e.start (e.group.lineCount - k + 1).toNat

/-- In a run of a search the sets of the windows of all emitted blocks are different from each
other, and they are the confirmed sets: each of these is taken up by one group at one shift. -/
theorem emitted_windows_partition (settings : Settings) (files : List CodeFile)
    (hk : 1 ≤ settings.minLines) (hm : 2 ≤ settings.maxOccurrences) :
    ∃ v emitted groups,
      (index settings.minLines files >>= confirm settings files).outcome = .ok v ∧
      (emissions files settings.minLines (v.confirmed.map (·.1)) [] v.ordered).outcome =
        .ok emitted ∧
      (∀ e ∈ emitted, groupAt files e.group.lineCount e.start = .ok e.group) ∧
      sortGroups (emitted.map Emission.group) = .ok groups ∧
      (detect settings files).outcome = .ok groups ∧
      (emitted.flatMap (Emission.windows settings.minLines)).Nodup ∧
      (emitted.flatMap (Emission.windows settings.minLines)).Perm (v.confirmed.map (·.1)) := by
  let sets := confirmedSets settings.minLines settings.maxOccurrences files
  have hmem : ∀ s, s ∈ LocationSet.sorted sets ↔ s ∈ sets := fun s => LocationSet.mem_sorted
  have hsub : ∀ s ∈ LocationSet.sorted sets, s ∈ sets := fun s => (hmem s).mp
  have hrep : ∀ s ∈ LocationSet.sorted sets,
      (blockAround settings.minLines sets s).Repeats files :=
    fun s hs => repeats_blockAround hk (hsub s hs)
  have hp : Placed sets := placed_confirmedSets _ _ files
  let emitted : List Emission := (roots sets [] (LocationSet.sorted sets)).map fun s =>
    ⟨chainStart sets s, (blockAround settings.minLines sets s).group files⟩
  have hgroups : emitted.map Emission.group = (loopBlocks settings.minLines settings.maxOccurrences
      files (LocationSet.sorted sets)).map (Block.group files) := by
    simp only [emitted, loopBlocks, List.map_map]
    rfl
  have hwindows : emitted.flatMap (Emission.windows settings.minLines) =
      (roots sets [] (LocationSet.sorted sets)).flatMap (runOf sets) := by
    rw [List.flatMap_map]
    exact List.flatMap_congr fun s _ => windows_blockAround settings.minLines sets s
  have hnodup : (emitted.flatMap (Emission.windows settings.minLines)).Nodup := by
    rw [hwindows]
    exact nodup_flatMap_runOf_roots hp hsub
  refine ⟨_, emitted, _, outcome_confirm_index settings files, outcome_emissions hrep, ?_, ?_,
    outcome_detect hk hm files, hnodup, ?_⟩
  · intro e he
    obtain ⟨r, hr, rfl⟩ := List.mem_map.mp he
    exact (hrep r (mem_of_mem_roots hr).1).groupAt_eq
  · rw [hgroups]
    exact sortGroups_loopBlocks hsub hk
  · refine (List.perm_ext_iff_of_nodup hnodup (nodup_confirmedSets _ _ files)).mpr fun t => ?_
    rw [hwindows]
    exact mem_flatMap_runOf_roots hp hmem

/-- The two groups of the sample project take up its three confirmed sets, the first of them two. -/
theorem sampleFiles_windows_partition : ∃ emitted : List Emission,
    sortGroups (emitted.map Emission.group) = .ok sampleGroups ∧
    (emitted.flatMap (Emission.windows 1)).Nodup ∧
    (emitted.flatMap (Emission.windows 1)).Perm sampleSets := by
  have hsets := outcome_confirm_sampleFiles
  obtain ⟨v, emitted, groups, hv, -, -, hsort, hd, hnodup, hperm⟩ :=
    emitted_windows_partition sampleSettings sampleFiles (by decide) (by decide)
  rw [outcome_detect_sampleFiles] at hd
  obtain rfl := Except.ok.inj hd
  rw [hv] at hsets
  obtain ⟨hconfirmed, -⟩ := Prod.mk.inj (Except.ok.inj hsets)
  refine ⟨emitted, hsort, hnodup, ?_⟩
  rw [← hconfirmed]
  exact hperm

end SourceCensus.Duplication
