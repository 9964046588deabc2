import SourceCensus.Proofs.Duplication.Findings

/-! # How far a group could be enlarged -/

namespace SourceCensus.Duplication

open LocationSet (shift)

variable {files : List CodeFile} {k m n d : Int} {a : Location} {s : LocationSet}

/-- Each location of a set has a code line at the distance `d`, and all of these lines have the same
text. -/
def SameLineAt (files : List CodeFile) (d : Int) (s : LocationSet) : Prop :=
  ∃ text, ∀ a ∈ s, 0 ≤ a.offset + d ∧
    (lineAt? files (Location.shift d a)).map (·.text) = some text

/-- The windows of `k` lines at the locations of a set have one text, and that text stands also at a
location outside the set. -/
def StandsElsewhere (k : Int) (files : List CodeFile) (s : LocationSet) : Prop :=
  ∃ c, c ∉ s ∧ Fits files k c ∧ ∀ a ∈ s, Fits files k a ∧ textOf files k a = textOf files k c

theorem fits_one_of_lineAt? {text : List Char} (h : a.Placed)
    (hl : (lineAt? files a).map (·.text) = some text) :
    Fits files 1 a ∧ textOf files 1 a = [text] := by
  obtain ⟨line, hline, rfl⟩ := Option.map_eq_some_iff.mp hl
  obtain ⟨file, hf, hi⟩ := Option.bind_eq_some_iff.mp hline
  have hlt := (List.getElem?_eq_some_iff.mp hi).1
  have hfit : Fits files 1 a := ⟨h, file, hf, by have := h.2; omega⟩
  have hlen := hfit.length_linesAt (by omega)
  obtain ⟨x, hx⟩ := List.length_eq_one_iff.mp (by omega : (linesAt files 1 a).length = 1)
  have hget : (linesAt files 1 a)[0]? = _ := getElem?_linesAt h (by decide) 0
  rw [hx, if_pos (by decide)] at hget
  have hxl : x = line := by simpa [hline] using hget
  exact ⟨hfit, by simp [textOf, hx, hxl]⟩

theorem SameLineAt.repeats (h : SameLineAt files d s) (hne : s ≠ [])
    (hfile : ∀ a ∈ s, 0 ≤ a.file) : Block.Repeats files ⟨shift d s, 1⟩ := by
  obtain ⟨text, hall⟩ := h
  have hone : ∀ a ∈ s,
      Fits files 1 (Location.shift d a) ∧ textOf files 1 (Location.shift d a) = [text] :=
    fun a ha => fits_one_of_lineAt? ⟨hfile a ha, (hall a ha).1⟩ (hall a ha).2
  constructor
  · simpa [LocationSet.shift] using hne
  · exact Int.le_refl 1
  · intro _ hmem
    obtain ⟨a, ha, rfl⟩ := List.mem_map.mp hmem
    exact (hone a ha).1
  · intro _ hmem _ hmem'
    obtain ⟨a, ha, rfl⟩ := List.mem_map.mp hmem
    obtain ⟨c, hc, rfl⟩ := List.mem_map.mp hmem'
    exact (hone a ha).2.trans (hone c hc).2.symm

theorem repeats_of_lines (hn : 1 ≤ n)
    (h : ∀ j, 0 ≤ j → j < n → Block.Repeats files ⟨shift j s, 1⟩) : Block.Repeats files ⟨s, n⟩ := by
  have hfirst := h 0 (Int.le_refl 0) (by omega)
  have hfits : ∀ a ∈ s, Fits files n a := by
    intro a ha
    have hlast := h (n - 1) (by omega) (by omega)
    refine Fits.of_last_window (k := 1) ?_ (hlast.fits _ (LocationSet.mem_shift.mpr ha))
    simpa using hfirst.fits _ (LocationSet.mem_shift.mpr ha)
  constructor
  · simpa using hfirst.ne_nil
  · exact hn
  · exact hfits
  · intro a ha c hc
    refine textOf_eq_of_windows (hfits a ha) (hfits c hc) (Int.le_refl 1) hn ?_
    intro j hj (hjn : j ≤ n - 1)
    exact (h j hj (by omega)).same _ (LocationSet.mem_shift.mpr ha) _ (LocationSet.mem_shift.mpr hc)

section Enlarging

variable (h : Block.Repeats files ⟨s, n⟩)
include h

theorem nonneg_file_of_repeats : ∀ a ∈ s, 0 ≤ a.file :=
  fun a ha => (h.fits a ha).placed.1

theorem repeats_with_line_before (hline : SameLineAt files (-1) s) :
    Block.Repeats files ⟨shift (-1) s, n + 1⟩ := by
  have hn : 1 ≤ n := h.pos
  refine repeats_of_lines (by omega) fun j hj hjn => ?_
  rw [LocationSet.shift_shift]
  rcases Int.lt_or_eq_of_le hj with hpos | rfl
  · exact h.window (Int.le_refl 1) (by omega) (by omega : -1 + j + 1 ≤ n)
  · exact hline.repeats h.ne_nil (nonneg_file_of_repeats h)

theorem repeats_with_line_after (hline : SameLineAt files n s) :
    Block.Repeats files ⟨s, n + 1⟩ := by
  have hn : 1 ≤ n := h.pos
  refine repeats_of_lines (by omega) fun j hj hjn => ?_
  rcases Int.lt_or_eq_of_le (by omega : j ≤ n) with hlt | rfl
  · exact h.window (Int.le_refl 1) hj (by omega : j + 1 ≤ n)
  · exact hline.repeats h.ne_nil (nonneg_file_of_repeats h)

end Enlarging

/-- Repeated windows that are not all places of their text leave out a place. -/
theorem standsElsewhere_of_not_isOccurrenceList (h : Block.Repeats files ⟨s, k⟩)
    (hs : s.Pairwise (· < ·)) (hnot : ¬ IsOccurrenceList k files s) :
    StandsElsewhere k files s := by
  obtain ⟨first, hfirst⟩ := List.exists_mem_of_ne_nil _ h.ne_nil
  by_contra helse
  refine hnot ⟨first, hfirst, LocationSet.eq_of_pairwise_lt hs (pairwise_occurrences k files _) ?_⟩
  intro c
  rw [mem_occurrences]
  constructor
  · intro hc
    exact ⟨h.fits c hc, h.same c hc first hfirst⟩
  · rintro ⟨hfit, htext⟩
    by_contra hc
    exact helse ⟨c, hc, hfit, fun a ha =>
      ⟨h.fits a ha, (h.same a ha first hfirst).trans htext.symm⟩⟩

theorem MaximalRun.standsElsewhere {last : Nat} {j : Int} (hc : CollisionFree k files)
    (hrun : MaximalRun (confirmedSets k m files) s last)
    (h : Block.Repeats files ⟨shift j s, k⟩) (hnot : shift j s ∉ confirmedSets k m files) :
    StandsElsewhere k files (shift j s) := by
  obtain ⟨h₂, hm, -⟩ := mem_confirmedSets.mp hrun.start_mem
  have hs := pairwise_of_mem_confirmedSets hrun.start_mem
  refine standsElsewhere_of_not_isOccurrenceList h (LocationSet.pairwise_shift hs j) fun hocc => ?_
  exact hnot ((shift_mem_confirmedSets_iff hc h₂ hm j).mpr hocc)

/-- In a search without collisions a group can be enlarged by a line before it, or after it, only
where the window at the new end stands at a place that the group does not have. -/
theorem group_enlarged_only_elsewhere (settings : Settings) (files : List CodeFile)
    (hk : 1 ≤ settings.minLines) (hm : 2 ≤ settings.maxOccurrences)
    (hc : CollisionFree settings.minLines files) :
    ∃ found groups, Finds settings files found groups ∧ ∀ e ∈ found,
      (SameLineAt files (-1) e.start →
        StandsElsewhere settings.minLines files (shift (-1) e.start)) ∧
      (SameLineAt files e.group.lineCount e.start →
        StandsElsewhere settings.minLines files
          (shift (e.group.lineCount - settings.minLines + 1) e.start)) := by
  refine ⟨_, _, finds_emitted settings hk hm files, fun e he => ?_⟩
  obtain ⟨last, hcount, hrun⟩ := exists_run_of_mem_emitted he
  have hrep := repeats_of_mem_emitted hk he
  constructor
  · intro hline
    have hwindow := (repeats_with_line_before hrep hline).window hk (Int.le_refl 0)
      (by omega : 0 + settings.minLines ≤ e.group.lineCount + 1)
    exact hrun.standsElsewhere hc (by simpa using hwindow) hrun.before
  · intro hline
    have hwindow := (repeats_with_line_after hrep hline).window hk (by omega : 0 ≤ (last : Int) + 1)
      (by omega : last + 1 + settings.minLines ≤ e.group.lineCount + 1)
    rw [show e.group.lineCount - settings.minLines + 1 = last + 1 by omega]
    exact hrun.standsElsewhere hc hwindow hrun.after

/-- The second line of the nested project with its two locations. -/
def nestedEmission : Emission :=
  ⟨[⟨0, 1⟩, ⟨1, 1⟩], ⟨[⟨"a", 2, 2⟩, ⟨"b", 2, 2⟩], 1, [['y']], .tolerable⟩⟩

theorem outcome_findings_nestedFiles : (findings { minLines := 1 } nestedFiles).outcome =
    .ok [⟨[⟨0, 0⟩, ⟨1, 0⟩, ⟨2, 0⟩],
      ⟨[⟨"a", 1, 1⟩, ⟨"b", 1, 1⟩, ⟨"c", 1, 1⟩], 1, [['x']], .critical⟩⟩, nestedEmission] := by
  cbv

theorem sameLineAt_nestedEmission : SameLineAt nestedFiles (-1) nestedEmission.start := by
  refine ⟨['x'], ?_⟩
  decide

/-- The line before the second line of the nested project stands at a third place. -/
theorem nestedFiles_line_stands_elsewhere : CollisionFree 1 nestedFiles ∧
    SameLineAt nestedFiles (-1) nestedEmission.start ∧
    StandsElsewhere 1 nestedFiles (shift (-1) nestedEmission.start) := by
  have hc : CollisionFree 1 nestedFiles := by decide +kernel
  obtain ⟨found, groups, hfinds, hall⟩ :=
    group_enlarged_only_elsewhere { minLines := 1 } nestedFiles (by decide) (by decide) hc
  have hfound := hfinds.findings
  rw [outcome_findings_nestedFiles] at hfound
  obtain rfl := Except.ok.inj hfound
  exact ⟨hc, sameLineAt_nestedEmission, (hall nestedEmission (by simp)).1 sameLineAt_nestedEmission⟩

/-- Not every group of a search without collisions has a different line before it, or none, at one
of its locations. -/
theorem not_all_groups_maximal : ¬ ∀ (settings : Settings) (files : List CodeFile),
    1 ≤ settings.minLines → 2 ≤ settings.maxOccurrences →
    CollisionFree settings.minLines files →
    ∃ found groups, Finds settings files found groups ∧ ∀ e ∈ found,
      ¬ SameLineAt files (-1) e.start ∧ ¬ SameLineAt files e.group.lineCount e.start := by
  intro hall
  obtain ⟨found, groups, hfinds, hmax⟩ :=
    hall { minLines := 1 } nestedFiles (by decide) (by decide) (by decide +kernel)
  have hfound := hfinds.findings
  rw [outcome_findings_nestedFiles] at hfound
  obtain rfl := Except.ok.inj hfound
  exact (hmax nestedEmission (by simp)).1 sameLineAt_nestedEmission

end SourceCensus.Duplication
