import SourceCensus.Proofs.Duplication.ProcessingOrder

/-! # Line numbers -/

namespace SourceCensus.Duplication

variable {files files' : List CodeFile} {k m size size' : Int} {a a' : Location} {b c : Block}

/-- The files of two projects have the same paths and the same lines of code; how the lines are
numbered is left open. -/
def SameCode (files files' : List CodeFile) : Prop :=
  files.map (fun file => (file.path.text, file.lines.map (·.text))) =
    files'.map fun file => (file.path.text, file.lines.map (·.text))

instance : Decidable (SameCode files files') :=
  inferInstanceAs (Decidable (files.map _ = files'.map _))

namespace SameCode

theorem symm (h : SameCode files files') : SameCode files' files := Eq.symm h

variable (h : SameCode files files')
include h

theorem exists_getElem? {i : Nat} {file : CodeFile} (hf : files[i]? = some file) :
    ∃ file', files'[i]? = some file' ∧ file'.path.text = file.path.text ∧
      file'.lines.map (·.text) = file.lines.map (·.text) := by
  have hi := congrArg (·[i]?) h
  simp only [List.getElem?_map, hf, Option.map_some] at hi
  obtain ⟨file', hf', heq⟩ := Option.map_eq_some_iff.mp hi.symm
  obtain ⟨hpath, htexts⟩ := Prod.mk.inj heq
  exact ⟨file', hf', hpath, htexts⟩

theorem pathsDiffer (hp : PathsDiffer files) : PathsDiffer files' := by
  have hpaths := congrArg (List.map Prod.fst) h
  rw [List.map_map, List.map_map] at hpaths
  rw [PathsDiffer] at hp ⊢
  exact hpaths ▸ hp

theorem fits (ha : Fits files size a) : Fits files' size a := by
  obtain ⟨hp, file, hf, hl⟩ := ha
  obtain ⟨file', hf', -, htexts⟩ := h.exists_getElem? hf
  have hlength : file'.lines.length = file.lines.length := by
    simpa using congrArg List.length htexts
  exact ⟨hp, file', hf', by omega⟩

theorem places_eq (size : Int) : places size files = places size files' := by
  apply LocationSet.eq_of_pairwise_lt (pairwise_places size files) (pairwise_places size files')
  intro a
  rw [mem_places, mem_places]
  exact ⟨h.fits, h.symm.fits⟩

theorem textOf_eq (size : Int) (ha : Fits files k a) :
    textOf files size a = textOf files' size a := by
  obtain ⟨hp, file, hf, -⟩ := ha
  obtain ⟨file', hf', -, htexts⟩ := h.exists_getElem? hf
  simp only [textOf, linesAt, fileAt_eq_ok hp hf, fileAt_eq_ok hp hf', CodeFile.block]
  rw [← Sequence.slice_map, ← Sequence.slice_map, htexts]

theorem occurrences_eq (w : List (List Char)) : occurrences k files w = occurrences k files' w := by
  rw [occurrences, occurrences, ← h.places_eq]
  refine List.filter_congr fun a ha => ?_
  rw [h.textOf_eq k (mem_places.mp ha)]

theorem mem_confirmedSets_iff {s : LocationSet} :
    s ∈ confirmedSets k m files ↔ s ∈ confirmedSets k m files' := by
  have hhash (w : List (List Char)) :
      (∀ a, Fits files k a → Digest.hashWindow (textOf files k a) = Digest.hashWindow w →
        textOf files k a = w) ↔
      ∀ a, Fits files' k a → Digest.hashWindow (textOf files' k a) = Digest.hashWindow w →
        textOf files' k a = w := by
    constructor
    · intro hall a ha
      rw [← h.textOf_eq k (h.symm.fits ha)]
      exact hall a (h.symm.fits ha)
    · intro hall a ha
      rw [h.textOf_eq k ha]
      exact hall a (h.fits ha)
  simp only [mem_confirmedSets, h.occurrences_eq, hhash]

theorem maximalRun_iff {start : LocationSet} {last : Nat} :
    MaximalRun (confirmedSets k m files) start last ↔
      MaximalRun (confirmedSets k m files') start last := by
  constructor
  · rintro ⟨hmem, hbefore, hafter⟩
    simp only [h.mem_confirmedSets_iff] at hmem hbefore hafter
    exact ⟨hmem, hbefore, hafter⟩
  · rintro ⟨hmem, hbefore, hafter⟩
    simp only [← h.mem_confirmedSets_iff] at hmem hbefore hafter
    exact ⟨hmem, hbefore, hafter⟩

/-- Searches of the same code meet the same blocks in the same order. -/
theorem loopBlocks_eq (k m : Int) :
    loopBlocks k m files (LocationSet.sorted (confirmedSets k m files)) =
      loopBlocks k m files' (LocationSet.sorted (confirmedSets k m files')) := by
  apply loopBlocks_eq_of_mem_iff
  · exact List.pairwise_map.mp (pairwise_start_loopBlocks k m files')
  · intro b
    rw [mem_loopBlocks fun s => LocationSet.mem_sorted,
      mem_loopBlocks fun s => LocationSet.mem_sorted]
    simp only [h.maximalRun_iff]

theorem path_occurrenceOf_eq (ha : Fits files size a) (hs : 1 ≤ size) :
    (occurrenceOf files size a).path = (occurrenceOf files' size a).path := by
  obtain ⟨file, -, hf, -, hpath, -⟩ := ha.occurrenceOf_first hs
  obtain ⟨file', -, hf', -, hpath', -⟩ := (h.fits ha).occurrenceOf_first hs
  obtain ⟨file'', hf'', heq, -⟩ := h.exists_getElem? hf
  obtain rfl : file' = file'' := by simpa [hf'] using hf''
  rw [hpath, hpath', heq]

end SameCode

theorem SortKey.le_congr {x y x' y' : SortKey} (hx : x.rank = x'.rank) (hy : y.rank = y'.rank)
    (hfx : x.fewer = x'.fewer) (hfy : y.fewer = y'.fewer) (hpx : x.path = x'.path)
    (hpy : y.path = y'.path) (hline : x.path = y.path → (x.line ≤ y.line ↔ x'.line ≤ y'.line)) :
    SortKey.le x y = SortKey.le x' y' := by
  simp only [SortKey.le, ← hx, ← hy, ← hfx, ← hfy, ← hpx, ← hpy]
  by_cases hpath : x.path = y.path
  · simp only [hpath, hline hpath]
  · simp only [ne_eq, hpath, not_false_eq_true, if_true]

/-- The numbering of the lines does not change which of two groups comes first. -/
theorem SameCode.le_key_group (h : SameCode files files') (hp : PathsDiffer files)
    (hn : NumbersIncrease files) (hn' : NumbersIncrease files') (hb : b.Repeats files)
    (hc : c.Repeats files) :
    SortKey.le (b.group files).key (c.group files).key =
      SortKey.le (b.group files').key (c.group files').key := by
  obtain ⟨first, rest, hstart⟩ := List.exists_cons_of_ne_nil hb.ne_nil
  obtain ⟨first', rest', hstart'⟩ := List.exists_cons_of_ne_nil hc.ne_nil
  have hfits := hb.fits first (by simp [hstart])
  have hfits' := hc.fits first' (by simp [hstart'])
  have hpath := h.path_occurrenceOf_eq hfits hb.pos
  have hpath' := h.path_occurrenceOf_eq hfits' hc.pos
  have hlines (b : Block) : (b.group files).duplicatedLines = (b.group files').duplicatedLines := by
    simp [Group.duplicatedLines, Block.group]
  rw [Block.key_group hstart, Block.key_group hstart', Block.key_group hstart,
    Block.key_group hstart', hlines, hlines]
  refine SortKey.le_congr rfl rfl rfl rfl hpath hpath' fun heq => ?_
  have heq' :
      (occurrenceOf files' b.size first).path = (occurrenceOf files' c.size first').path := by
    rw [← hpath, ← hpath']
    exact heq
  rw [firstLine_occurrenceOf_le_iff hp hfits hfits' hb.pos hc.pos heq hn,
    firstLine_occurrenceOf_le_iff (h.pathsDiffer hp) (h.fits hfits) (h.fits hfits') hb.pos hc.pos
      heq' hn']

/-- An occurrence shows the path of the file of a location and the numbers that the project gives to
the first and to the last line of the block there. -/
def Occurrence.Numbered (files : List CodeFile) (size : Int) (a : Location) (o : Occurrence) :
    Prop :=
  (∃ file, files[a.file.toNat]? = some file ∧ o.path = file.path.text) ∧
    (lineAt? files a).map (·.number) = some o.firstLine ∧
    (lineAt? files (a.shift (size - 1))).map (·.number) = some o.lastLine

theorem Fits.occurrenceOf_numbered (h : Fits files size a) (hs : 1 ≤ size) :
    (occurrenceOf files size a).Numbered files size a := by
  obtain ⟨file, first, last, hf, hfirst, hlast, ho⟩ := h.occurrenceAt_eq hs
  have hlength := h.length_linesAt (by omega)
  have hoc : occurrenceOf files size a = ⟨file.path.text, first.number, last.number⟩ := by
    simp [occurrenceOf, ho, Except.toOption]
  have hline (i : Nat) (hi : (i : Int) < size) :
      (linesAt files size a)[i]? = lineAt? files (a.shift i) := by
    rw [getElem?_linesAt h.placed (by omega), if_pos hi]
  rw [List.head?_eq_getElem?, hline 0 (by omega), Int.natCast_zero, Location.shift_zero] at hfirst
  rw [List.getLast?_eq_getElem?, hline _ (by omega)] at hlast
  rw [hoc]
  refine ⟨⟨file, hf, rfl⟩, by rw [hfirst]; rfl, ?_⟩
  rw [show size - 1 = (((linesAt files size a).length - 1 : Nat) : Int) by omega, hlast]
  rfl

/-- Two groups agree in all but line numbers, and their occurrences stand at the same locations of
their projects, under the numbers that each project has there. -/
structure Group.Agrees (files files' : List CodeFile) (s : LocationSet) (g g' : Group) : Prop where
  lineCount : g.lineCount = g'.lineCount
  sample : g.sample = g'.sample
  severity : g.severity = g'.severity
  paths : g.occurrences.map (·.path) = g'.occurrences.map (·.path)
  numbered : List.Forall₂ (Occurrence.Numbered files g.lineCount) s g.occurrences
  numbered' : List.Forall₂ (Occurrence.Numbered files' g'.lineCount) s g'.occurrences

theorem SameCode.agrees_group (h : SameCode files files') (hrep : b.Repeats files) :
    Group.Agrees files files' b.start (b.group files) (b.group files') := by
  have hnumbered {project : List CodeFile} (hfits : ∀ a ∈ b.start, Fits project b.size a) :
      List.Forall₂ (Occurrence.Numbered project b.size) b.start (b.group project).occurrences :=
    List.forall₂_map_right_iff.mpr (List.forall₂_same.mpr fun a ha =>
      (hfits a ha).occurrenceOf_numbered hrep.pos)
  constructor
  · rfl
  · obtain ⟨first, rest, hstart⟩ := List.exists_cons_of_ne_nil hrep.ne_nil
    have htext := h.textOf_eq (min b.size Group.sampleSize) (hrep.fits first (by simp [hstart]))
    simp [Block.group, hstart, htext]
  · rfl
  · simp only [Block.group, List.map_map]
    exact List.map_congr_left fun a ha => h.path_occurrenceOf_eq (hrep.fits a ha) hrep.pos
  · exact hnumbered hrep.fits
  · exact hnumbered fun a ha => h.fits (hrep.fits a ha)

/-- Searches of the same code under the same paths, numbered in two ways, give groups that agree one
by one, in the same order, and each shows the numbers of its own project. -/
theorem detect_agrees_of_sameCode (settings : Settings) (files files' : List CodeFile)
    (hk : 1 ≤ settings.minLines) (hm : 2 ≤ settings.maxOccurrences) (h : SameCode files files')
    (hp : PathsDiffer files) (hn : NumbersIncrease files) (hn' : NumbersIncrease files') :
    ∃ groups groups', (detect settings files).outcome = .ok groups ∧
      (detect settings files').outcome = .ok groups' ∧
      List.Forall₂ (fun g g' => ∃ s, Group.Agrees files files' s g g') groups groups' := by
  let blocks := loopBlocks settings.minLines settings.maxOccurrences files
    (LocationSet.sorted (confirmedSets settings.minLines settings.maxOccurrences files))
  have hrep : ∀ b ∈ blocks, b.Repeats files :=
    fun b => repeats_of_mem_loopBlocks (fun s => LocationSet.mem_sorted.mp) hk
  let before (b c : Block) := SortKey.le (b.group files).key (c.group files).key
  have hsorted : byKey (blocks.map (Block.group files)) =
      (blocks.mergeSort before).map (Block.group files) := by
    refine (List.map_mergeSort ?_).symm
    intro b _ c _
    rfl
  have hsorted' : byKey (blocks.map (Block.group files')) =
      (blocks.mergeSort before).map (Block.group files') := by
    refine (List.map_mergeSort ?_).symm
    intro b hb c hc
    exact h.le_key_group hp hn hn' (hrep b hb) (hrep c hc)
  have hdetect' := outcome_detect hk hm files'
  rw [← h.loopBlocks_eq] at hdetect'
  refine ⟨_, _, outcome_detect hk hm files, hdetect', ?_⟩
  rw [hsorted, hsorted', List.forall₂_map_left_iff, List.forall₂_map_right_iff]
  refine List.forall₂_same.mpr fun b hb => ⟨b.start, h.agrees_group (hrep b ?_)⟩
  exact (List.mergeSort_perm blocks before).mem_iff.mp hb

/-- Two lines that stand in two files in the one order and in the other. -/
def crossedFiles : List CodeFile :=
  [⟨⟨.relative, ["a"]⟩, [⟨1, ['x']⟩, ⟨2, ['z']⟩]⟩, ⟨⟨.relative, ["b"]⟩, [⟨1, ['z']⟩, ⟨2, ['x']⟩]⟩]

def spacedFiles : List CodeFile :=
  [⟨⟨.relative, ["a"]⟩, [⟨5, ['x']⟩, ⟨40, ['z']⟩]⟩, ⟨⟨.relative, ["b"]⟩, [⟨3, ['z']⟩, ⟨8, ['x']⟩]⟩]

theorem outcome_detect_crossedFiles : (detect sampleSettings crossedFiles).outcome = .ok
    [⟨[⟨"a", 1, 1⟩, ⟨"b", 2, 2⟩], 1, [['x']], .tolerable⟩,
      ⟨[⟨"a", 2, 2⟩, ⟨"b", 1, 1⟩], 1, [['z']], .tolerable⟩] := by
  cbv

theorem outcome_detect_spacedFiles : (detect sampleSettings spacedFiles).outcome = .ok
    [⟨[⟨"a", 5, 5⟩, ⟨"b", 8, 8⟩], 1, [['x']], .tolerable⟩,
      ⟨[⟨"a", 40, 40⟩, ⟨"b", 3, 3⟩], 1, [['z']], .tolerable⟩] := by
  cbv

/-- The groups of the two lines are told apart by their line numbers alone, and stand in the same
order among the blank lines. -/
theorem crossedFiles_agree_spacedFiles : SameCode crossedFiles spacedFiles ∧
    PathsDiffer crossedFiles ∧ NumbersIncrease crossedFiles ∧ NumbersIncrease spacedFiles ∧
    List.Forall₂ (fun g g' => ∃ s, Group.Agrees crossedFiles spacedFiles s g g')
      [⟨[⟨"a", 1, 1⟩, ⟨"b", 2, 2⟩], 1, [['x']], .tolerable⟩,
        ⟨[⟨"a", 2, 2⟩, ⟨"b", 1, 1⟩], 1, [['z']], .tolerable⟩]
      [⟨[⟨"a", 5, 5⟩, ⟨"b", 8, 8⟩], 1, [['x']], .tolerable⟩,
        ⟨[⟨"a", 40, 40⟩, ⟨"b", 3, 3⟩], 1, [['z']], .tolerable⟩] := by
  have hsame : SameCode crossedFiles spacedFiles := by decide
  have hp : PathsDiffer crossedFiles := by decide
  have hn : NumbersIncrease crossedFiles := by decide
  have hn' : NumbersIncrease spacedFiles := by decide
  obtain ⟨groups, groups', hd, hd', hall⟩ :=
    detect_agrees_of_sameCode sampleSettings crossedFiles spacedFiles (by decide) (by decide) hsame
      hp hn hn'
  rw [outcome_detect_crossedFiles] at hd
  obtain rfl := Except.ok.inj hd
  rw [outcome_detect_spacedFiles] at hd'
  obtain rfl := Except.ok.inj hd'
  exact ⟨hsame, hp, hn, hn', hall⟩

end SourceCensus.Duplication
