import SourceCensus.Proofs.Duplication.DetectedBlocks
import SourceCensus.Proofs.Duplication.ReferenceDetector

/-! # Groups with the locations of their blocks -/

namespace SourceCensus.Duplication

open LocationSet (shift)

variable {settings : Settings} {files : List CodeFile} {k m : Int} {s : LocationSet} {e : Emission}

/-- The search up to the sorting of its groups, with the start of each block kept. -/
def findings (settings : Settings) (files : List CodeFile) : Run Fault (List Emission) := do
  Run.ofExcept settings.check
  let entries ← index settings.minLines files
  let v ← confirm settings files entries
  let found ← emissions files settings.minLines (v.confirmed.map (·.1)) [] v.ordered
  Run.note (.duplicatesDetected files.length v.ordered.length found.length)
  return found

/-- Sorting the groups of the findings is the search, notices included. -/
theorem detect_eq_findings (settings : Settings) (files : List CodeFile) :
    detect settings files = findings settings files >>= fun found =>
      Run.ofExcept (sortGroups (found.map Emission.group)) := by
  simp only [detect, findings, detectFrom, collect_eq_emissions, bind_assoc, pure_bind,
    bind_map_left, List.length_map]

/-- A search ends without a fault: it emits the blocks `found` and returns their groups, sorted. -/
structure Finds (settings : Settings) (files : List CodeFile) (found : List Emission)
    (groups : List Group) : Prop where
  findings : (findings settings files).outcome = .ok found
  built : ∀ e ∈ found, groupAt files e.group.lineCount e.start = .ok e.group
  sorted : sortGroups (found.map Emission.group) = .ok groups
  detected : (detect settings files).outcome = .ok groups

/-- The blocks that a search emits, as a total function. -/
def emitted (k m : Int) (files : List CodeFile) : List Emission :=
  (loopBlocks k m files (LocationSet.sorted (confirmedSets k m files))).map
    fun b => ⟨b.start, b.group files⟩

theorem outcome_findings (hk : 1 ≤ settings.minLines) (hm : 2 ≤ settings.maxOccurrences)
    (files : List CodeFile) : (findings settings files).outcome =
      .ok (emitted settings.minLines settings.maxOccurrences files) := by
  have hv := outcome_confirm_index settings files
  rw [Run.outcome_bind] at hv
  have hemit : (emissions files settings.minLines
      (confirmedSets settings.minLines settings.maxOccurrences files) []
      (LocationSet.sorted (confirmedSets settings.minLines settings.maxOccurrences files))).outcome =
        .ok (emitted settings.minLines settings.maxOccurrences files) := by
    rw [outcome_emissions fun s hs => repeats_blockAround hk (LocationSet.mem_sorted.mp hs)]
    simp only [emitted, loopBlocks, List.map_map, Function.comp_def, start_blockAround]
  simp only [findings, Run.outcome_bind, Run.outcome_ofExcept, check_eq_ok hk hm, ok_bind]
  rw [← bind_assoc, hv, ok_bind, Validation.ordered, ← confirmedSets, hemit, ok_bind,
    Run.outcome_note, ok_bind, Run.outcome_pure]

theorem finds_emitted (settings : Settings) (hk : 1 ≤ settings.minLines)
    (hm : 2 ≤ settings.maxOccurrences) (files : List CodeFile) :
    Finds settings files (emitted settings.minLines settings.maxOccurrences files)
      (byKey ((emitted settings.minLines settings.maxOccurrences files).map Emission.group)) := by
  let sets := confirmedSets settings.minLines settings.maxOccurrences files
  have hsub : ∀ s ∈ LocationSet.sorted sets, s ∈ sets := fun s => LocationSet.mem_sorted.mp
  have hsorted :
      sortGroups ((emitted settings.minLines settings.maxOccurrences files).map Emission.group) =
        .ok (byKey ((emitted settings.minLines settings.maxOccurrences files).map
          Emission.group)) := by
    rw [emitted, List.map_map]
    exact sortGroups_loopBlocks hsub hk
  constructor
  · exact outcome_findings hk hm files
  · intro e he
    obtain ⟨b, hb, rfl⟩ := List.mem_map.mp he
    exact (repeats_of_mem_loopBlocks hsub hk hb).groupAt_eq
  · exact hsorted
  · rw [detect_eq_findings, Run.outcome_bind, outcome_findings hk hm, ok_bind]
    exact hsorted

/-- What a search emits are the blocks of the maximal runs. -/
theorem mem_emitted : e ∈ emitted k m files ↔ ∃ b : Block, (⟨b.start, b.group files⟩ : Emission) = e ∧
    ∃ last : Nat, b.size = k + last ∧ MaximalRun (confirmedSets k m files) b.start last := by
  have hmem : ∀ s, s ∈ LocationSet.sorted (confirmedSets k m files) ↔ s ∈ confirmedSets k m files :=
    fun s => LocationSet.mem_sorted
  simp only [emitted, List.mem_map, mem_loopBlocks hmem, and_comm]

theorem exists_run_of_mem_emitted (he : e ∈ emitted k m files) :
    ∃ last : Nat, e.group.lineCount = k + last ∧
      MaximalRun (confirmedSets k m files) e.start last := by
  obtain ⟨b, rfl, hrun⟩ := mem_emitted.mp he
  exact hrun

theorem length_occurrences_of_mem_emitted (he : e ∈ emitted k m files) :
    e.group.occurrences.length = e.start.length := by
  obtain ⟨b, rfl, -⟩ := mem_emitted.mp he
  exact List.length_map _

theorem shift_mem_confirmedSets_of_mem_emitted (he : e ∈ emitted k m files) {j : Int} (hj : 0 ≤ j)
    (hjk : j ≤ e.group.lineCount - k) : shift j e.start ∈ confirmedSets k m files := by
  obtain ⟨last, hcount, hrun⟩ := exists_run_of_mem_emitted he
  lift j to ℕ using hj
  exact hrun.mem j (by omega)

theorem exists_emitted_of_mem_confirmedSets (hs : s ∈ confirmedSets k m files) :
    ∃ e ∈ emitted k m files, ∃ j : Int, 0 ≤ j ∧ j ≤ e.group.lineCount - k ∧
      shift j e.start = s := by
  let b := blockAround k (confirmedSets k m files) s
  have hsize : b.size = _ := size_blockAround k (confirmedSets k m files) s
  have hb : (⟨b.start, b.group files⟩ : Emission) ∈ emitted k m files :=
    mem_emitted.mpr ⟨b, rfl, _, hsize, maximalRun_blockAround hs⟩
  refine ⟨_, hb, (backward (confirmedSets k m files) s).length, Int.natCast_nonneg _, ?_, ?_⟩
  · change _ ≤ b.size - k
    omega
  · exact shift_chainStart (confirmedSets k m files) s

/-- Without collisions, a text that is repeated within the ceiling is the text of a window of an
emitted block, and stands at the locations of that window and nowhere else. -/
theorem exists_emitted_of_occurrences (hc : CollisionFree k files) {w : List (List Char)}
    (h₂ : 2 ≤ (occurrences k files w).length)
    (hm : ((occurrences k files w).length : Int) ≤ m) :
    ∃ e ∈ emitted k m files, ∃ j : Int, 0 ≤ j ∧ j ≤ e.group.lineCount - k ∧
      shift j e.start = occurrences k files w := by
  apply exists_emitted_of_mem_confirmedSets
  obtain ⟨a, ha⟩ := List.exists_mem_of_length_pos (Nat.lt_of_lt_of_le Nat.two_pos h₂)
  refine (mem_confirmedSets_of_collisionFree hc).mpr ⟨h₂, hm, a, ha, ?_⟩
  rw [(mem_occurrences.mp ha).2]

theorem repeats_of_mem_emitted (hk : 1 ≤ k) (he : e ∈ emitted k m files) :
    Block.Repeats files ⟨e.start, e.group.lineCount⟩ := by
  obtain ⟨last, hcount, hrun⟩ := exists_run_of_mem_emitted he
  exact repeats_of_run hrun.mem hk rfl hcount

/-- A project of three files: two lines stand in the first two, and the first of them also in the
third. -/
def nestedFiles : List CodeFile :=
  [⟨⟨.relative, ["a"]⟩, [⟨1, ['x']⟩, ⟨2, ['y']⟩]⟩,
    ⟨⟨.relative, ["b"]⟩, [⟨1, ['x']⟩, ⟨2, ['y']⟩]⟩,
    ⟨⟨.relative, ["c"]⟩, [⟨1, ['x']⟩]⟩]

end SourceCensus.Duplication
