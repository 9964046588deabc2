import SourceCensus.Proofs.Duplication.Findings

/-! # Which repeated blocks are reported -/

namespace SourceCensus.Duplication

open LocationSet (shift)

variable {files : List CodeFile} {k m i : Int} {a b : Location} {w : List (List Char)}
  {e : Emission} {found : List Emission}

def windowText (k i : Int) (w : List (List Char)) : List (List Char) :=
  (w.drop i.toNat).take k.toNat

/-- The windows of `k` lines at two locations lie inside two located blocks of a group, at the same
distance from their starts. -/
def Emission.Aligns (k : Int) (e : Emission) (a b : Location) : Prop :=
  ∃ j, 0 ≤ j ∧ j ≤ e.group.lineCount - k ∧ a ∈ shift j e.start ∧ b ∈ shift j e.start

/-- Two occurrences of a block of `n` lines are reported: some group aligns two windows of `k` lines
that lie at the same distance from the starts of the occurrences. -/
def ReportsBoth (k n : Int) (found : List Emission) (a b : Location) : Prop :=
  ∃ e ∈ found, ∃ i, 0 ≤ i ∧ i ≤ n - k ∧ e.Aligns k (Location.shift i a) (Location.shift i b)

theorem shift_mem_occurrences (hk : 1 ≤ k) (hi : 0 ≤ i) (hik : i ≤ w.length - k)
    (ha : a ∈ occurrences w.length files w) :
    Location.shift i a ∈ occurrences k files (windowText k i w) := by
  obtain ⟨hfit, htext⟩ := mem_occurrences.mp ha
  refine mem_occurrences.mpr ⟨hfit.shift hi (by omega), ?_⟩
  rw [textOf_shift hfit.placed hi (by omega) (by omega : i + k ≤ w.length), htext, windowText]

/-- A window stands at no fewer places than the text around it. -/
theorem length_occurrences_le_window (hk : 1 ≤ k) (hi : 0 ≤ i) (hik : i ≤ w.length - k) :
    (occurrences w.length files w).length ≤
      (occurrences k files (windowText k i w)).length := by
  have hnodup : (shift i (occurrences w.length files w)).Nodup :=
    LocationSet.nodup_of_pairwise_lt
      (LocationSet.pairwise_shift (pairwise_occurrences _ files w) i)
  have hsub : shift i (occurrences w.length files w) ⊆
      occurrences k files (windowText k i w) := by
    intro _ hmem
    obtain ⟨a, ha, rfl⟩ := List.mem_map.mp hmem
    exact shift_mem_occurrences hk hi hik ha
  simpa using (hnodup.subperm hsub).length_le

theorem reportsBoth_of_window (hk : 1 ≤ k) (hc : CollisionFree k files)
    (h₂ : 2 ≤ (occurrences w.length files w).length) (hi : 0 ≤ i) (hik : i ≤ w.length - k)
    (hm : ((occurrences k files (windowText k i w)).length : Int) ≤ m)
    (ha : a ∈ occurrences w.length files w) (hb : b ∈ occurrences w.length files w) :
    ReportsBoth k w.length (emitted k m files) a b := by
  have hwindow : (occurrences w.length files w).length ≤ _ :=
    length_occurrences_le_window hk hi hik
  obtain ⟨e, he, j, hj, hjk, hshift⟩ := exists_emitted_of_occurrences hc (by omega) hm
  refine ⟨e, he, i, hi, hik, j, hj, hjk, ?_, ?_⟩
  · rw [hshift]
    exact shift_mem_occurrences hk hi hik ha
  · rw [hshift]
    exact shift_mem_occurrences hk hi hik hb

theorem exists_window_of_reportsBoth (hk : 1 ≤ k) (ha : a ∈ occurrences w.length files w)
    (h : ReportsBoth k w.length (emitted k m files) a b) :
    ∃ i, 0 ≤ i ∧ i ≤ w.length - k ∧
      ((occurrences k files (windowText k i w)).length : Int) ≤ m := by
  obtain ⟨e, he, i, hi, hik, j, hj, hjk, hmem, -⟩ := h
  refine ⟨i, hi, hik, ?_⟩
  obtain ⟨-, hceiling, v, hv, -⟩ :=
    mem_confirmedSets.mp (shift_mem_confirmedSets_of_mem_emitted he hj hjk)
  have htext : windowText k i w = v := by
    rw [hv] at hmem
    rw [← (mem_occurrences.mp hmem).2]
    exact (mem_occurrences.mp (shift_mem_occurrences hk hi hik ha)).2.symm
  rwa [htext, ← hv]

/-- In a search without collisions all occurrences of a repeated block are reported, any two of them
aligned in one group, exactly when a window of the block stands at no more places than the
ceiling. -/
theorem block_reported_iff_window_within_ceiling (settings : Settings) (files : List CodeFile)
    (hk : 1 ≤ settings.minLines) (hm : 2 ≤ settings.maxOccurrences)
    (hc : CollisionFree settings.minLines files) :
    ∃ found groups, Finds settings files found groups ∧ ∀ w : List (List Char),
      settings.minLines ≤ w.length → 2 ≤ (occurrences w.length files w).length →
      ((∀ a ∈ occurrences w.length files w, ∀ b ∈ occurrences w.length files w,
          ReportsBoth settings.minLines w.length found a b) ↔
        ∃ i, 0 ≤ i ∧ i ≤ w.length - settings.minLines ∧
          ((occurrences settings.minLines files (windowText settings.minLines i w)).length : Int) ≤
            settings.maxOccurrences) := by
  refine ⟨_, _, finds_emitted settings hk hm files, fun w _ h₂ => ?_⟩
  constructor
  · intro h
    obtain ⟨a, ha⟩ := List.exists_mem_of_length_pos (Nat.lt_of_lt_of_le Nat.two_pos h₂)
    exact exists_window_of_reportsBoth hk ha (h a ha a ha)
  · rintro ⟨i, hi, hik, hceiling⟩ a ha b hb
    exact reportsBoth_of_window hk hc h₂ hi hik hceiling ha hb

/-- Under a ceiling of two, the two lines that stand together at two places of the nested project are
reported, although the first of them stands at three. -/
theorem nestedFiles_block_reported : CollisionFree 1 nestedFiles ∧
    (occurrences 1 nestedFiles [['x']]).length = 3 ∧ ∃ found groups,
    Finds { minLines := 1, maxOccurrences := 2 } nestedFiles found groups ∧
    ReportsBoth 1 2 found ⟨0, 0⟩ ⟨1, 0⟩ := by
  have hc : CollisionFree 1 nestedFiles := by decide +kernel
  have hocc : occurrences 2 nestedFiles [['x'], ['y']] = [⟨0, 0⟩, ⟨1, 0⟩] := by decide
  obtain ⟨found, groups, hfinds, hall⟩ :=
    block_reported_iff_window_within_ceiling { minLines := 1, maxOccurrences := 2 } nestedFiles
      (by decide) (by decide) hc
  have hreported := (hall [['x'], ['y']] (by decide) (by decide)).mpr
    ⟨1, by decide, by decide, by decide⟩
  change ∀ a ∈ occurrences 2 nestedFiles [['x'], ['y']],
    ∀ b ∈ occurrences 2 nestedFiles [['x'], ['y']], _ at hreported
  rw [hocc] at hreported
  exact ⟨hc, by decide, found, groups, hfinds, hreported _ (by simp) _ (by simp)⟩

/-- A project of three files: two lines that stand together in two of them, and the other way round
in the third. -/
def swappedFiles : List CodeFile :=
  [⟨⟨.relative, ["a"]⟩, [⟨1, ['x']⟩, ⟨2, ['y']⟩]⟩,
    ⟨⟨.relative, ["b"]⟩, [⟨1, ['x']⟩, ⟨2, ['y']⟩]⟩,
    ⟨⟨.relative, ["c"]⟩, [⟨1, ['y']⟩, ⟨2, ['x']⟩]⟩]

theorem outcome_findings_swappedFiles :
    (findings { minLines := 1, maxOccurrences := 2 } swappedFiles).outcome = .ok [] := by
  cbv

/-- Not every block that is repeated within the ceiling is reported: the two lines of the swapped
project stand together at two places, but each of them stands at three. -/
theorem not_all_repeated_blocks_reported : ¬ ∀ (settings : Settings) (files : List CodeFile),
    1 ≤ settings.minLines → 2 ≤ settings.maxOccurrences →
    CollisionFree settings.minLines files →
    ∃ found groups, Finds settings files found groups ∧ ∀ w : List (List Char),
      settings.minLines ≤ w.length → 2 ≤ (occurrences w.length files w).length →
      ((occurrences w.length files w).length : Int) ≤ settings.maxOccurrences →
      ∀ a ∈ occurrences w.length files w, ∀ b ∈ occurrences w.length files w,
        ReportsBoth settings.minLines w.length found a b := by
  intro hall
  obtain ⟨found, groups, hfinds, hcomplete⟩ :=
    hall { minLines := 1, maxOccurrences := 2 } swappedFiles (by decide) (by decide)
      (by decide +kernel)
  have hfound := hfinds.findings
  rw [outcome_findings_swappedFiles] at hfound
  obtain rfl := Except.ok.inj hfound
  have hocc : occurrences 2 swappedFiles [['x'], ['y']] = [⟨0, 0⟩, ⟨1, 0⟩] := by decide
  have hfirst : (⟨0, 0⟩ : Location) ∈ occurrences 2 swappedFiles [['x'], ['y']] := by simp [hocc]
  obtain ⟨e, he, -⟩ :=
    hcomplete [['x'], ['y']] (by decide) (by decide) (by decide) ⟨0, 0⟩ hfirst ⟨0, 0⟩ hfirst
  simp at he

end SourceCensus.Duplication
