import SourceCensus.Proofs.Binary64
import SourceCensus.Proofs.Duplication.DuplicatedTotal

/-! # The ratio of duplicated lines -/

namespace SourceCensus.Duplication

variable {files : List CodeFile} {groups : List Group} {k m : Int} {s t : LocationSet}
  {a : Location} {e : Emission} {found : List Emission}

/-- The places of one line are the lines of the project. -/
theorem length_places_one (files : List CodeFile) (groups : List Group) :
    ((places 1 files).length : Int) = (summarize files groups).totalLines := by
  have hcount (file : CodeFile) :
      max 0 ((file.lines.length : Int) - 1 + 1) = file.lines.length := by omega
  simp only [length_places, hcount, summarize]

theorem totalLines_nonneg : 0 ≤ (summarize files groups).totalLines := by
  rw [← length_places_one]
  exact Int.natCast_nonneg _

/-- Different locations in the project are not more than its lines. -/
theorem length_le_totalLines {places : List Location} (hnodup : places.Nodup)
    (hfits : ∀ a ∈ places, Fits files 1 a) :
    (places.length : Int) ≤ (summarize files groups).totalLines := by
  rw [← length_places_one]
  apply Int.ofNat_le.mpr
  exact (hnodup.subperm fun a ha => mem_places.mpr (hfits a ha)).length_le

theorem fits_of_mem_coveredLines (hk : 1 ≤ k) (ha : a ∈ coveredLines (emitted k m files)) :
    Fits files 1 a := by
  obtain ⟨s, hs, has⟩ := List.mem_flatten.mp ha
  obtain ⟨e, he, p, hp, hpn, rfl⟩ := mem_lineSets.mp hs
  obtain ⟨c, hc, rfl⟩ := List.mem_map.mp has
  exact ((repeats_of_mem_emitted hk he).fits c hc).shift hp (by simp only; omega)

theorem length_dedup_coveredLines_le_totalLines (hk : 1 ≤ k) :
    ((coveredLines (emitted k m files)).dedup.length : Int) ≤
      (summarize files groups).totalLines :=
  length_le_totalLines (List.nodup_dedup _) fun _ ha =>
    fits_of_mem_coveredLines hk (List.mem_dedup.mp ha)

/-- No set of lines of a located block is empty, so the lines outnumber their sets. -/
theorem length_lineSets_le (hk : 1 ≤ k) :
    (lineSets (emitted k m files)).length ≤ (coveredLines (emitted k m files)).length := by
  rw [coveredLines, List.length_flatten, ← List.length_map List.length]
  apply List.length_le_sum_of_one_le
  intro count hcount
  obtain ⟨s, hs, rfl⟩ := List.mem_map.mp hcount
  obtain ⟨e, he, p, -, -, rfl⟩ := mem_lineSets.mp hs
  rw [LocationSet.length_shift]
  exact List.length_pos_iff.mpr (repeats_of_mem_emitted hk he).ne_nil

theorem eq_of_mem_confirmedSets (hs : s ∈ confirmedSets k m files)
    (ht : t ∈ confirmedSets k m files) (has : a ∈ s) (hat : a ∈ t) : s = t := by
  obtain ⟨-, -, w, rfl, -⟩ := mem_confirmedSets.mp hs
  obtain ⟨-, -, v, rfl, -⟩ := mem_confirmedSets.mp ht
  rw [← (mem_occurrences.mp has).2, (mem_occurrences.mp hat).2]

theorem nodup_flatMap_windows (k m : Int) (files : List CodeFile) :
    ((emitted k m files).flatMap (Emission.windows k)).Nodup := by
  let sets := confirmedSets k m files
  have hblock (b : Block) : Emission.windows k ⟨b.start, b.group files⟩ = b.windows k := rfl
  have hruns : (emitted k m files).flatMap (Emission.windows k) =
      (roots sets [] (LocationSet.sorted sets)).flatMap (runOf sets) := by
    rw [emitted, loopBlocks, List.map_map, List.flatMap_map]
    apply List.flatMap_congr
    intro s _
    rw [Function.comp_apply, hblock, windows_blockAround]
  rw [hruns]
  exact nodup_flatMap_runOf_roots (placed_confirmedSets k m files)
    fun s hs => LocationSet.mem_sorted.mp hs

theorem mem_confirmedSets_of_mem_windows
    (hs : s ∈ (emitted k m files).flatMap (Emission.windows k)) : s ∈ confirmedSets k m files := by
  obtain ⟨e, he, hse⟩ := List.mem_flatMap.mp hs
  obtain ⟨j, hj, rfl⟩ := mem_shifts.mp hse
  exact shift_mem_confirmedSets_of_mem_emitted he (by omega) (by omega)

/-- The windows of all located blocks stand at different places. -/
theorem nodup_flatten_windows (k m : Int) (files : List CodeFile) :
    ((emitted k m files).flatMap (Emission.windows k)).flatten.Nodup := by
  refine List.nodup_flatten.mpr ⟨fun s hs => ?_, ?_⟩
  · exact LocationSet.nodup_of_pairwise_lt
      (pairwise_of_mem_confirmedSets (mem_confirmedSets_of_mem_windows hs))
  · refine (nodup_flatMap_windows k m files).imp_of_mem fun hs ht hne a has hat => hne ?_
    exact eq_of_mem_confirmedSets (mem_confirmedSets_of_mem_windows hs)
      (mem_confirmedSets_of_mem_windows ht) has hat

/-- A located block has at most `k` times as many lines as windows. -/
theorem length_lines_le (hk : 1 ≤ k) (he : e ∈ emitted k m files) :
    ((e.windows 1).flatten.length : Int) ≤ k * (e.windows k).flatten.length := by
  obtain ⟨last, hcount, -⟩ := exists_run_of_mem_emitted he
  have hlines : ((e.windows 1).length : Int) = k + last := by
    rw [length_windows]
    omega
  have hwindows : ((e.windows k).length : Int) = last + 1 := by
    rw [length_windows]
    omega
  rw [length_flatten_windows, length_flatten_windows]
  push_cast
  rw [hlines, hwindows, ← mul_assoc]
  apply mul_le_mul_of_nonneg_right
  · calc k + last ≤ k + k * last := by
          have := le_mul_of_one_le_left (Int.natCast_nonneg last) hk
          omega
      _ = k * (last + 1) := by ring
  · exact Int.natCast_nonneg _

theorem length_coveredLines_le (hk : 1 ≤ k) (hsub : found ⊆ emitted k m files) :
    ((coveredLines found).length : Int) ≤
      k * (found.flatMap (Emission.windows k)).flatten.length := by
  induction found with
  | nil => simp [coveredLines, lineSets]
  | cons e found ih =>
    have hfirst := length_lines_le hk (hsub List.mem_cons_self)
    have hrest := ih fun x hx => hsub (List.mem_cons_of_mem _ hx)
    simp only [coveredLines, lineSets, List.flatMap_cons, List.flatten_append, List.length_append]
      at hrest ⊢
    push_cast
    rw [mul_add]
    omega

theorem length_coveredLines_le_mul_totalLines (hk : 1 ≤ k) :
    ((coveredLines (emitted k m files)).length : Int) ≤
      k * (summarize files groups).totalLines := by
  have hplaces : (((emitted k m files).flatMap (Emission.windows k)).flatten.length : Int) ≤
      (summarize files groups).totalLines := by
    refine length_le_totalLines (nodup_flatten_windows k m files) fun a ha => ?_
    obtain ⟨s, hs, has⟩ := List.mem_flatten.mp ha
    have hfit := fits_of_mem_confirmedSets (mem_confirmedSets_of_mem_windows hs) has
    simpa using hfit.shift (Int.le_refl 0) (by omega : 0 + 1 ≤ k)
  calc ((coveredLines (emitted k m files)).length : Int)
      ≤ k * ((emitted k m files).flatMap (Emission.windows k)).flatten.length :=
        length_coveredLines_le hk (List.Subset.refl _)
    _ ≤ k * (summarize files groups).totalLines := by gcongr

def Metrics.PercentageWithin (bound : ℚ) (metrics : Metrics) : Prop :=
  ∃ x, metrics.percentage = .ok x ∧ x.Within bound

/-- A ratio that is at most a natural number gives a percentage that is at most a hundred times that
number, after both roundings. -/
theorem Metrics.percentageWithin_of_le {metrics : Metrics} {bound : Int} (hnonneg : 0 ≤ bound)
    (htotal : 0 ≤ metrics.totalLines) (hdup : 0 ≤ metrics.duplicatedLines)
    (hle : metrics.duplicatedLines ≤ bound * metrics.totalLines) (hbound : 100 * bound < 2 ^ 53) :
    metrics.PercentageWithin (100 * bound) := by
  lift bound to ℕ using hnonneg
  unfold PercentageWithin percentage
  by_cases hzero : metrics.totalLines = 0
  · rw [if_pos hzero]
    exact ⟨_, rfl, Number.Binary64.within_zero (by positivity)⟩
  · obtain ⟨quotient, hquotient, hvalue⟩ := Number.Binary64.exists_ofQuotient?_le hdup
      (by omega : 0 < metrics.totalLines) hle (by omega)
    have hwithin := Number.Binary64.timesNat_within hvalue (by omega : bound * 100 < 2 ^ 53)
    rw [if_neg hzero, hquotient]
    refine ⟨_, rfl, ?_⟩
    rw [Nat.mul_comm] at hwithin
    exact_mod_cast hwithin

/-- The total of duplicated lines is at most the window size times the lines of the project, and it
exceeds the lines of the project by no more than the number of times that a line is counted again.
In particular it is a part of the lines of the project where no line lies in two located blocks, and
where it is so, the percentage lies between zero and a hundred. -/
theorem duplicated_lines_bounded (settings : Settings) (files : List CodeFile)
    (hk : 1 ≤ settings.minLines) (hm : 2 ≤ settings.maxOccurrences) :
    ∃ found groups, Finds settings files found groups ∧
      0 ≤ (summarize files groups).duplicatedLines ∧
      (summarize files groups).duplicatedLines ≤
        settings.minLines * (summarize files groups).totalLines ∧
      (summarize files groups).duplicatedLines ≤
        (summarize files groups).totalLines + recounts found ∧
      ((coveredLines found).Nodup →
        (summarize files groups).duplicatedLines ≤ (summarize files groups).totalLines) ∧
      ((summarize files groups).duplicatedLines ≤ (summarize files groups).totalLines →
        (summarize files groups).PercentageWithin 100) ∧
      (100 * settings.minLines < 2 ^ 53 →
        (summarize files groups).PercentageWithin (100 * settings.minLines)) := by
  let found := emitted settings.minLines settings.maxOccurrences files
  let metrics := summarize files (byKey (found.map Emission.group))
  have htotal : metrics.duplicatedLines + (lineSets found).length = (coveredLines found).length :=
    duplicatedLines_summarize hk settings.maxOccurrences files
  have hlines : 0 ≤ metrics.totalLines := totalLines_nonneg
  have hrows : (lineSets found).length ≤ (coveredLines found).length := length_lineSets_le hk
  have hall : ((coveredLines found).length : Int) ≤ settings.minLines * metrics.totalLines :=
    length_coveredLines_le_mul_totalLines hk
  have hdedup : ((coveredLines found).dedup.length : Int) ≤ metrics.totalLines :=
    length_dedup_coveredLines_le_totalLines hk
  have hnonneg : 0 ≤ metrics.duplicatedLines := by omega
  have hbound : metrics.duplicatedLines ≤ settings.minLines * metrics.totalLines := by omega
  refine ⟨found, _, finds_emitted settings hk hm files, hnonneg, hbound, ?_, ?_, ?_, ?_⟩
  · change metrics.duplicatedLines ≤ metrics.totalLines + recounts found
    simp only [recounts]
    omega
  · intro hnodup
    change metrics.duplicatedLines ≤ metrics.totalLines
    rw [hnodup.dedup] at hdedup
    omega
  · intro hle
    have hpart : metrics.duplicatedLines ≤ 1 * metrics.totalLines := by
      rw [one_mul]
      exact hle
    simpa using Metrics.percentageWithin_of_le Int.one_nonneg hlines hnonneg hpart (by decide)
  · intro hsmall
    exact Metrics.percentageWithin_of_le (by omega) hlines hnonneg hbound hsmall

/-- Without overlaps: two of the five lines of the nested project are duplicated. -/
theorem nestedFiles_ratio : ∃ found groups, Finds { minLines := 2 } nestedFiles found groups ∧
    (coveredLines found).Nodup ∧
    (summarize nestedFiles groups).duplicatedLines ≤ (summarize nestedFiles groups).totalLines ∧
    (summarize nestedFiles groups).PercentageWithin 100 := by
  obtain ⟨found, groups, hfinds, -, -, -, htotal, hpercentage, -⟩ :=
    duplicated_lines_bounded { minLines := 2 } nestedFiles (by decide) (by decide)
  have hfound := hfinds.findings
  rw [outcome_findings_nestedFiles_two] at hfound
  obtain rfl := Except.ok.inj hfound
  have hnodup : (coveredLines [nestedBlock]).Nodup := by decide
  have hle := htotal hnodup
  exact ⟨_, groups, hfinds, hnodup, hle, hpercentage hle⟩

/-- A project of one file with the same line five times. -/
def steadyFiles : List CodeFile :=
  [⟨⟨.relative, ["a"]⟩, [⟨1, ['x']⟩, ⟨2, ['x']⟩, ⟨3, ['x']⟩, ⟨4, ['x']⟩, ⟨5, ['x']⟩]⟩]

/-- The four windows of two lines of the steady project. -/
def steadyGroup : Group :=
  ⟨[⟨"a", 1, 2⟩, ⟨"a", 2, 3⟩, ⟨"a", 3, 4⟩, ⟨"a", 4, 5⟩], 2, [['x'], ['x']], .critical⟩

theorem outcome_detect_steadyFiles :
    (detect { minLines := 2 } steadyFiles).outcome = .ok [steadyGroup] := by
  cbv

/-- The total may exceed the lines of the project: windows of two lines of the steady project overlap
and add six duplicated lines to its five, which is 120 percent. -/
theorem not_all_totals_within_project : ¬ ∀ (settings : Settings) (files : List CodeFile),
    1 ≤ settings.minLines → 2 ≤ settings.maxOccurrences →
    ∃ groups, (detect settings files).outcome = .ok groups ∧
      0 ≤ (summarize files groups).duplicatedLines ∧
      (summarize files groups).duplicatedLines ≤ (summarize files groups).totalLines ∧
      (summarize files groups).PercentageWithin 100 := by
  intro hall
  obtain ⟨groups, hd, -, hle, -⟩ := hall { minLines := 2 } steadyFiles (by decide) (by decide)
  rw [outcome_detect_steadyFiles] at hd
  obtain rfl := Except.ok.inj hd
  exact absurd hle (by decide)

end SourceCensus.Duplication
