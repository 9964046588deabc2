import SourceCensus.Proofs.Duplication.Findings

/-! # Searches under a lower ceiling -/

namespace SourceCensus.Duplication

open LocationSet (shift)

variable {files : List CodeFile} {k m m' : Int} {s start : LocationSet} {last : Nat}

theorem mem_confirmedSets_of_le (hle : m ≤ m') : s ∈ confirmedSets k m files ↔
    s ∈ confirmedSets k m' files ∧ (s.length : Int) ≤ m := by
  rw [mem_confirmedSets, mem_confirmedSets]
  constructor
  · rintro ⟨h₂, hm, hw⟩
    exact ⟨⟨h₂, hm.trans hle, hw⟩, hm⟩
  · rintro ⟨⟨h₂, -, hw⟩, hm⟩
    exact ⟨h₂, hm, hw⟩

/-- The sets of a run are shifts of each other and have one length, which alone decides whether a
ceiling keeps them. -/
theorem maximalRun_of_le (hle : m ≤ m') : MaximalRun (confirmedSets k m files) start last ↔
    MaximalRun (confirmedSets k m' files) start last ∧ (start.length : Int) ≤ m := by
  have hshift (hlen : (start.length : Int) ≤ m) (j : Int) :
      shift j start ∈ confirmedSets k m files ↔ shift j start ∈ confirmedSets k m' files := by
    rw [mem_confirmedSets_of_le hle, LocationSet.length_shift]
    exact and_iff_left hlen
  constructor
  · intro h
    have hlen := ((mem_confirmedSets_of_le hle).mp h.start_mem).2
    refine ⟨⟨?_, ?_, ?_⟩, hlen⟩
    · intro j hj
      exact (hshift hlen j).mp (h.mem j hj)
    · rw [← hshift hlen]
      exact h.before
    · rw [← hshift hlen]
      exact h.after
  · rintro ⟨h, hlen⟩
    constructor
    · intro j hj
      exact (hshift hlen j).mpr (h.mem j hj)
    · rw [hshift hlen]
      exact h.before
    · rw [hshift hlen]
      exact h.after

/-- The blocks under the lower ceiling, in the order in which the search meets them. -/
theorem loopBlocks_of_le (hle : m ≤ m') :
    loopBlocks k m files (LocationSet.sorted (confirmedSets k m files)) =
      (loopBlocks k m' files (LocationSet.sorted (confirmedSets k m' files))).filter
        fun b => (b.start.length : Int) ≤ m := by
  apply loopBlocks_eq_of_mem_iff
  · exact (List.pairwise_map.mp (pairwise_start_loopBlocks k m' files)).filter _
  · intro b
    rw [List.mem_filter, mem_loopBlocks fun s => LocationSet.mem_sorted,
      mem_loopBlocks fun s => LocationSet.mem_sorted, decide_eq_true_eq]
    simp only [maximalRun_of_le hle, ← and_assoc, exists_and_right]

/-- Lowering the ceiling leaves out the groups with more occurrences and changes nothing else:
neither the other groups nor their order. -/
theorem lower_ceiling_filters_groups (settings : Settings) (files : List CodeFile) (m : Int)
    (hk : 1 ≤ settings.minLines) (hm : 2 ≤ m) (hle : m ≤ settings.maxOccurrences) :
    ∃ groups, (detect settings files).outcome = .ok groups ∧
      (detect { settings with maxOccurrences := m } files).outcome =
        .ok (groups.filter fun g => (g.occurrences.length : Int) ≤ m) := by
  have hlower := @outcome_detect { settings with maxOccurrences := m } hk hm files
  refine ⟨_, outcome_detect hk (hm.trans hle) files, ?_⟩
  rw [hlower, loopBlocks_of_le hle, filter_byKey, List.filter_map]
  simp only [Function.comp_def, Block.group, List.length_map]

theorem outcome_detect_nestedFiles : (detect { minLines := 1 } nestedFiles).outcome =
    .ok [⟨[⟨"a", 1, 1⟩, ⟨"b", 1, 1⟩, ⟨"c", 1, 1⟩], 1, [['x']], .critical⟩,
      ⟨[⟨"a", 2, 2⟩, ⟨"b", 2, 2⟩], 1, [['y']], .tolerable⟩] := by
  cbv

/-- Under a ceiling of two the nested project loses the group of its first line, which stands at three
places, and keeps the group of its second line. -/
theorem nestedFiles_ceiling_two :
    (detect { minLines := 1, maxOccurrences := 2 } nestedFiles).outcome =
      .ok [⟨[⟨"a", 2, 2⟩, ⟨"b", 2, 2⟩], 1, [['y']], .tolerable⟩] := by
  obtain ⟨groups, hgroups, hlower⟩ :=
    lower_ceiling_filters_groups { minLines := 1 } nestedFiles 2 (by decide) (by decide) (by decide)
  rw [outcome_detect_nestedFiles] at hgroups
  obtain rfl := Except.ok.inj hgroups
  exact hlower

end SourceCensus.Duplication
