import SourceCensus.Proofs.Duplication.DetectedBlocks

/-! # What a reported group says -/

namespace SourceCensus.Duplication

variable {files : List CodeFile} {k m size : Int} {a : Location}

/-- An occurrence carries the path of the file of a location and the numbers of the first and the
last line of the block there, and the lines of the file numbered from the one to the other are the
block. -/
def Occurrence.Marks (files : List CodeFile) (size : Int) (a : Location) (o : Occurrence) : Prop :=
  ∃ file, files[a.file.toNat]? = some file ∧ o.path = file.path.text ∧
    (file.block a.offset size).head?.map (·.number) = some o.firstLine ∧
    (file.block a.offset size).getLast?.map (·.number) = some o.lastLine ∧
    file.lines.filter (fun line => o.firstLine ≤ line.number ∧ line.number ≤ o.lastLine) =
      file.block a.offset size

/-- A group reports the block of lines `w` that stands at the locations `s` and nowhere else. -/
structure Group.Reports (files : List CodeFile) (k m : Int) (g : Group) (s : LocationSet)
    (w : List (List Char)) : Prop where
  built : groupAt files g.lineCount s = .ok g
  increasing : s.Pairwise (· < ·)
  two_le_length : 2 ≤ s.length
  length_le : (s.length : Int) ≤ m
  le_lineCount : k ≤ g.lineCount
  length_text : (w.length : Int) = g.lineCount
  /-- The locations are all places at which the block lies inside a file and has the text. -/
  mem_iff : ∀ a, a ∈ s ↔ Fits files g.lineCount a ∧ textsAt files g.lineCount a = .ok w
  occurrences : List.Forall₂ (Occurrence.Marks files g.lineCount) s g.occurrences
  sample : g.sample = w.take (min 5 g.lineCount).toNat
  severity : g.severity = if 3 ≤ s.length then .critical else .tolerable

theorem occurrenceOf_marks (hn : NumbersIncrease files) (h : Fits files size a) (hs : 1 ≤ size) :
    (occurrenceOf files size a).Marks files size a := by
  obtain ⟨file, first, last, hf, hfirst, hlast, ho⟩ := h.occurrenceAt_eq hs
  have hl : linesAt files size a = file.block a.offset size := by
    rw [linesAt, fileAt_eq_ok h.placed hf]
  rw [hl] at hfirst hlast
  have hoc : occurrenceOf files size a = ⟨file.path.text, first.number, last.number⟩ := by
    simp [occurrenceOf, ho, Except.toOption]
  rw [hoc]
  refine ⟨file, hf, rfl, by simp [hfirst], by simp [hlast], ?_⟩
  have hsplit : file.lines = file.lines.take a.offset.toNat ++ file.block a.offset size ++
      (file.lines.drop a.offset.toNat).drop size.toNat := by
    rw [CodeFile.block, Sequence.slice_add_of_nonneg _ h.placed.2 (by omega), List.append_assoc,
      List.take_append_drop, List.take_append_drop]
  have hinc := hn file (List.mem_of_getElem? hf)
  rw [hsplit] at hinc
  conv_lhs => rw [hsplit]
  exact filter_between hinc hfirst hlast

theorem Block.sample_group {b : Block} (h : b.Repeats files) (ha : a ∈ b.start) :
    (b.group files).sample = (textOf files b.size a).take (min 5 b.size).toNat := by
  have hpos := h.pos
  obtain ⟨first, others, hs⟩ := List.exists_cons_of_ne_nil h.ne_nil
  have hfirst : first ∈ b.start := by simp [hs]
  have htake : textOf files (min b.size 5) first =
      (textOf files b.size first).take (min b.size 5).toNat :=
    textOf_of_le (h.fits first hfirst).placed (by omega) (by omega)
  rw [h.same a ha first hfirst, Int.min_comm 5 b.size, ← htake]
  simp [Block.group, hs, Group.sampleSize]

theorem severity_ofCount (n : Nat) :
    Severity.ofCount n = if 3 ≤ n then .critical else .tolerable := by
  have h : Severity.criticalOccurrences ≤ (n : Int) ↔ 3 ≤ n := by
    simp only [Severity.criticalOccurrences]
    omega
  simp only [Severity.ofCount, h]

/-- The block of a maximal run is reported exactly. -/
theorem Block.reports_group (hn : NumbersIncrease files) (hk : 1 ≤ k) {b : Block} {last : Nat}
    (hsize : b.size = k + last) (hrun : MaximalRun (confirmedSets k m files) b.start last) :
    ∃ w, (b.group files).Reports files k m b.start w := by
  have hrep : b.Repeats files := repeats_of_run hrun.mem hk rfl hsize
  obtain ⟨first, hfirst⟩ := List.exists_mem_of_ne_nil _ hrep.ne_nil
  have hocc : b.start = occurrences b.size files (textOf files b.size first) := by
    rw [hsize]
    exact start_eq_occurrences hrun.mem hk hfirst
  obtain ⟨h₂, hm, -⟩ := mem_confirmedSets.mp hrun.start_mem
  refine ⟨textOf files b.size first, ?_⟩
  constructor
  · exact hrep.groupAt_eq
  · rw [hocc]
    exact pairwise_occurrences b.size files _
  · exact h₂
  · exact hm
  · change k ≤ b.size
    omega
  · exact (hrep.fits first hfirst).length_textOf (by have := hrep.pos; omega)
  · intro a
    conv_lhs => rw [hocc]
    rw [mem_occurrences]
    refine and_congr_right fun hfit => ?_
    change _ ↔ textsAt files b.size a = .ok _
    rw [hfit.textsAt, Except.ok.injEq]
  · exact List.forall₂_map_right_iff.mpr (List.forall₂_same.mpr fun a ha =>
      occurrenceOf_marks hn (hrep.fits a ha) hrep.pos)
  · exact Block.sample_group hrep hfirst
  · exact severity_ofCount _

/-- A search over files with increasing line numbers succeeds, and each of its groups reports all
occurrences of one text, of `minLines` lines or more, that stands at two places or more and at no
more than the ceiling. -/
theorem detect_groups_exact (settings : Settings) (files : List CodeFile)
    (hk : 1 ≤ settings.minLines) (hm : 2 ≤ settings.maxOccurrences) (hn : NumbersIncrease files) :
    ∃ groups, (detect settings files).outcome = .ok groups ∧
      ∀ g ∈ groups, ∃ s w, g.Reports files settings.minLines settings.maxOccurrences s w := by
  refine ⟨_, outcome_detect hk hm files, ?_⟩
  intro g hg
  obtain ⟨b, hb, rfl⟩ := List.mem_map.mp ((perm_byKey _).mem_iff.mp hg)
  obtain ⟨last, hsize, hrun⟩ := (mem_loopBlocks fun s => LocationSet.mem_sorted).mp hb
  exact ⟨b.start, Block.reports_group hn hk hsize hrun⟩

/-- The two lines that two files of the sample project share are reported exactly. -/
theorem sampleFiles_group_exact : NumbersIncrease sampleFiles ∧ ∃ s w,
    Group.Reports sampleFiles 1 2
      ⟨[⟨"a", 1, 2⟩, ⟨"b", 3, 5⟩], 2, [['x'], ['y']], .tolerable⟩ s w := by
  have hn : NumbersIncrease sampleFiles := by decide
  obtain ⟨groups, hd, hr⟩ :=
    detect_groups_exact sampleSettings sampleFiles (by decide) (by decide) hn
  rw [outcome_detect_sampleFiles] at hd
  obtain rfl := Except.ok.inj hd
  exact ⟨hn, hr _ (by simp [sampleGroups])⟩

end SourceCensus.Duplication
