import Mathlib.Data.Multiset.MapFold
import SourceCensus.Duplication.Metrics
import SourceCensus.Proofs.Duplication.Soundness

/-! # The order of the files -/

namespace SourceCensus.Duplication

open LocationSet (shift)

variable {files files' : List CodeFile} {f : Equiv.Perm Nat} {k m size : Int} {a : Location}
  {s start : LocationSet}

def Location.relabel (f : Equiv.Perm Nat) (a : Location) : Location :=
  ⟨f a.file.toNat, a.offset⟩

def LocationSet.relabel (f : Equiv.Perm Nat) (s : LocationSet) : LocationSet :=
  .ofList (s.map (Location.relabel f))

theorem Location.relabel_symm_relabel (h : 0 ≤ a.file) : (a.relabel f).relabel f.symm = a := by
  cases a
  simp only [relabel, Int.toNat_natCast, Equiv.symm_apply_apply, Location.mk.injEq, and_true]
  exact Int.toNat_of_nonneg h

namespace LocationSet

theorem mem_relabel : a ∈ relabel f s ↔ ∃ b ∈ s, b.relabel f = a := by
  simp [relabel]

theorem pairwise_relabel (f : Equiv.Perm Nat) (s : LocationSet) :
    (relabel f s).Pairwise (· < ·) :=
  pairwise_ofList _

theorem shift_relabel (d : Int) (f : Equiv.Perm Nat) (s : LocationSet) :
    shift d (relabel f s) = relabel f (shift d s) := by
  apply eq_of_pairwise_lt (pairwise_shift (pairwise_relabel f s) d) (pairwise_relabel f _)
  intro a
  simp only [shift, List.mem_map, mem_relabel]
  constructor
  · rintro ⟨_, ⟨b, hb, rfl⟩, rfl⟩
    exact ⟨_, ⟨b, hb, rfl⟩, rfl⟩
  · rintro ⟨_, ⟨b, hb, rfl⟩, rfl⟩
    exact ⟨_, ⟨b, hb, rfl⟩, rfl⟩

section Proper

variable (hs : s.Pairwise (· < ·)) (hfile : ∀ a ∈ s, 0 ≤ a.file)
include hs hfile

theorem relabel_symm_relabel : relabel f.symm (relabel f s) = s := by
  apply eq_of_pairwise_lt (pairwise_relabel _ _) hs
  intro a
  simp only [mem_relabel]
  constructor
  · rintro ⟨_, ⟨b, hb, rfl⟩, rfl⟩
    rwa [Location.relabel_symm_relabel (hfile b hb)]
  · intro ha
    exact ⟨_, ⟨a, ha, rfl⟩, Location.relabel_symm_relabel (hfile a ha)⟩

theorem perm_relabel : (relabel f s).Perm (s.map (Location.relabel f)) := by
  have hnodup : (s.map (Location.relabel f)).Nodup := by
    refine (nodup_of_pairwise_lt hs).map_on fun a ha b hb heq => ?_
    rw [← Location.relabel_symm_relabel (hfile a ha), heq,
      Location.relabel_symm_relabel (hfile b hb)]
  refine (List.perm_ext_iff_of_nodup (nodup_of_pairwise_lt (pairwise_relabel f s)) hnodup).mpr ?_
  intro a
  rw [mem_relabel, List.mem_map]

theorem length_relabel : (relabel f s).length = s.length := by
  rw [(perm_relabel hs hfile).length_eq, List.length_map]

end Proper

end LocationSet

def Relabels (f : Equiv.Perm Nat) (files files' : List CodeFile) : Prop :=
  ∀ i, files'[f i]? = files[i]?

namespace Relabels

theorem symm (h : Relabels f files files') : Relabels f.symm files' files := by
  intro i
  rw [← h, Equiv.apply_symm_apply]

variable (h : Relabels f files files')
include h

/-- All that is read at a location is read from its file. -/
theorem fileAt_relabel (hfile : 0 ≤ a.file) : fileAt files' (a.relabel f) = fileAt files a := by
  have hitem : Sequence.item? files' (a.relabel f).file = Sequence.item? files a.file := by
    have hfile' : 0 ≤ (a.relabel f).file := Int.natCast_nonneg _
    rw [Sequence.item?_of_nonneg _ hfile, Sequence.item?_of_nonneg _ hfile', ← h]
    rfl
  rw [fileAt, fileAt, hitem]

theorem textOf_relabel (hfile : 0 ≤ a.file) :
    textOf files' size (a.relabel f) = textOf files size a := by
  rw [textOf, textOf, linesAt, linesAt, h.fileAt_relabel hfile]
  rfl

theorem occurrenceOf_relabel (hfile : 0 ≤ a.file) :
    occurrenceOf files' size (a.relabel f) = occurrenceOf files size a := by
  rw [occurrenceOf, occurrenceOf, occurrenceAt, occurrenceAt, h.fileAt_relabel hfile]
  rfl

theorem fits_relabel (ha : Fits files size a) : Fits files' size (a.relabel f) := by
  obtain ⟨⟨hfile, hoffset⟩, file, hf, hl⟩ := ha
  refine ⟨⟨Int.natCast_nonneg _, hoffset⟩, file, ?_, hl⟩
  rw [← hf, ← h]
  rfl

/-- A text stands at the relabelled places. -/
theorem occurrences_relabel (w : List (List Char)) :
    LocationSet.relabel f (occurrences k files w) = occurrences k files' w := by
  apply LocationSet.eq_of_pairwise_lt (LocationSet.pairwise_relabel _ _)
    (pairwise_occurrences k files' w)
  intro a
  rw [LocationSet.mem_relabel]
  constructor
  · rintro ⟨b, hb, rfl⟩
    obtain ⟨hfit, htext⟩ := mem_occurrences.mp hb
    refine mem_occurrences.mpr ⟨h.fits_relabel hfit, ?_⟩
    rw [h.textOf_relabel hfit.placed.1, htext]
  · intro ha
    obtain ⟨hfit, htext⟩ := mem_occurrences.mp ha
    refine ⟨a.relabel f.symm, mem_occurrences.mpr ⟨h.symm.fits_relabel hfit, ?_⟩, ?_⟩
    · rw [h.symm.textOf_relabel hfit.placed.1, htext]
    · exact Location.relabel_symm_relabel (f := f.symm) hfit.placed.1

theorem mem_confirmedSets_relabel (hs : s ∈ confirmedSets k m files) :
    LocationSet.relabel f s ∈ confirmedSets k m files' := by
  have hsorted := pairwise_of_mem_confirmedSets hs
  have hfile : ∀ a ∈ s, 0 ≤ a.file := fun a ha => (fits_of_mem_confirmedSets hs ha).placed.1
  obtain ⟨h₂, hm, w, hw, hhash⟩ := mem_confirmedSets.mp hs
  rw [mem_confirmedSets, LocationSet.length_relabel hsorted hfile]
  refine ⟨h₂, hm, w, ?_, ?_⟩
  · rw [hw, h.occurrences_relabel]
  · intro a ha
    rw [← h.symm.textOf_relabel ha.placed.1]
    exact hhash _ (h.symm.fits_relabel ha)

/-- Sets of sorted locations are confirmed together with the relabelled ones. -/
theorem relabel_mem_confirmedSets_iff (hs : s.Pairwise (· < ·)) (hfile : ∀ a ∈ s, 0 ≤ a.file) :
    LocationSet.relabel f s ∈ confirmedSets k m files' ↔ s ∈ confirmedSets k m files := by
  constructor
  · intro hmem
    rw [← LocationSet.relabel_symm_relabel (f := f) hs hfile]
    exact h.symm.mem_confirmedSets_relabel hmem
  · exact h.mem_confirmedSets_relabel

theorem maximalRun_relabel {last : Nat} (hrun : MaximalRun (confirmedSets k m files) start last) :
    MaximalRun (confirmedSets k m files') (LocationSet.relabel f start) last := by
  have hsorted := pairwise_of_mem_confirmedSets hrun.start_mem
  have hshift (j : Int) : shift j (LocationSet.relabel f start) ∈ confirmedSets k m files' ↔
      shift j start ∈ confirmedSets k m files := by
    rw [LocationSet.shift_relabel]
    apply h.relabel_mem_confirmedSets_iff (LocationSet.pairwise_shift hsorted j)
    intro _ hmem
    obtain ⟨a, ha, rfl⟩ := List.mem_map.mp hmem
    exact (fits_of_mem_confirmedSets hrun.start_mem ha).placed.1
  constructor
  · intro j hj
    exact (hshift j).mpr (hrun.mem j hj)
  · rw [hshift]
    exact hrun.before
  · rw [hshift]
    exact hrun.after

end Relabels

def Block.relabel (f : Equiv.Perm Nat) (b : Block) : Block :=
  ⟨LocationSet.relabel f b.start, b.size⟩

theorem Block.relabel_symm_relabel {b : Block} {last : Nat}
    (hrun : MaximalRun (confirmedSets k m files) b.start last) :
    (b.relabel f).relabel f.symm = b := by
  have hstart : LocationSet.relabel f.symm (LocationSet.relabel f b.start) = b.start :=
    LocationSet.relabel_symm_relabel (pairwise_of_mem_confirmedSets hrun.start_mem)
      fun a ha => (fits_of_mem_confirmedSets hrun.start_mem ha).placed.1
  simp only [Block.relabel, hstart]

/-- A search of the permuted files makes the relabelled blocks. -/
theorem Relabels.perm_loopBlocks (h : Relabels f files files') {ordered ordered' : List LocationSet}
    (hmem : ∀ s, s ∈ ordered ↔ s ∈ confirmedSets k m files)
    (hmem' : ∀ s, s ∈ ordered' ↔ s ∈ confirmedSets k m files') :
    ((loopBlocks k m files ordered).map (Block.relabel f)).Perm
      (loopBlocks k m files' ordered') := by
  have hnodup : ((loopBlocks k m files ordered).map (Block.relabel f)).Nodup := by
    refine (nodup_loopBlocks k m files ordered).map_on fun b hb c hc heq => ?_
    obtain ⟨_, -, hrun⟩ := (mem_loopBlocks hmem).mp hb
    obtain ⟨_, -, hrun'⟩ := (mem_loopBlocks hmem).mp hc
    rw [← Block.relabel_symm_relabel (f := f) hrun, heq, Block.relabel_symm_relabel hrun']
  refine (List.perm_ext_iff_of_nodup hnodup (nodup_loopBlocks k m files' ordered')).mpr fun b => ?_
  rw [List.mem_map]
  constructor
  · rintro ⟨b, hb, rfl⟩
    obtain ⟨last, hsize, hrun⟩ := (mem_loopBlocks hmem).mp hb
    exact (mem_loopBlocks hmem').mpr ⟨last, hsize, h.maximalRun_relabel hrun⟩
  · intro hb
    obtain ⟨last, hsize, hrun⟩ := (mem_loopBlocks hmem').mp hb
    refine ⟨b.relabel f.symm, (mem_loopBlocks hmem).mpr ⟨last, hsize, ?_⟩, ?_⟩
    · exact h.symm.maximalRun_relabel hrun
    · exact Block.relabel_symm_relabel (f := f.symm) hrun

theorem Relabels.repeats_relabel (h : Relabels f files files') {b : Block} (hrep : b.Repeats files) :
    (b.relabel f).Repeats files' := by
  have hmem {a : Location} (ha : a ∈ (b.relabel f).start) : ∃ c ∈ b.start, c.relabel f = a :=
    LocationSet.mem_relabel.mp ha
  constructor
  · obtain ⟨first, hfirst⟩ := List.exists_mem_of_ne_nil _ hrep.ne_nil
    exact List.ne_nil_of_mem (LocationSet.mem_relabel.mpr ⟨first, hfirst, rfl⟩)
  · exact hrep.pos
  · intro _ hrelabelled
    obtain ⟨a, ha, rfl⟩ := hmem hrelabelled
    exact h.fits_relabel (hrep.fits a ha)
  · intro _ hrelabelled _ hrelabelled'
    obtain ⟨a, ha, rfl⟩ := hmem hrelabelled
    obtain ⟨c, hc, rfl⟩ := hmem hrelabelled'
    rw [h.textOf_relabel (hrep.fits a ha).placed.1, h.textOf_relabel (hrep.fits c hc).placed.1]
    exact hrep.same a ha c hc

/-- A group with no order among its occurrences. -/
structure UnorderedGroup where
  occurrences : Multiset Occurrence
  lineCount : Int
  sample : List (List Char)
  severity : Severity

/-- The group with the order of its occurrences forgotten. -/
def Group.unordered (g : Group) : UnorderedGroup :=
  ⟨g.occurrences, g.lineCount, g.sample, g.severity⟩

/-- A relabelled block is reported as the same group, but for the order of its occurrences.  The
sample may come from another location, where the text is the same. -/
theorem Relabels.unordered_group_relabel (h : Relabels f files files') {b : Block}
    (hrep : b.Repeats files) (hs : b.start.Pairwise (· < ·)) :
    ((b.relabel f).group files').unordered = (b.group files).unordered := by
  have hfile : ∀ a ∈ b.start, 0 ≤ a.file := fun a ha => (hrep.fits a ha).placed.1
  have hoccurrences :
      ((b.relabel f).group files').occurrences.Perm (b.group files).occurrences := by
    have hperm := (LocationSet.perm_relabel (f := f) hs hfile).map (occurrenceOf files' b.size)
    rw [List.map_map] at hperm
    refine hperm.trans (List.Perm.of_eq (List.map_congr_left fun a ha => ?_))
    exact h.occurrenceOf_relabel (hfile a ha)
  have hsample : ((b.relabel f).group files').sample = (b.group files).sample := by
    obtain ⟨first, hfirst⟩ := List.exists_mem_of_ne_nil _ hrep.ne_nil
    have hfirst' : first.relabel f ∈ (b.relabel f).start :=
      LocationSet.mem_relabel.mpr ⟨first, hfirst, rfl⟩
    rw [Block.sample_group hrep hfirst, Block.sample_group (h.repeats_relabel hrep) hfirst',
      h.textOf_relabel (hfile first hfirst)]
    rfl
  have hseverity : ((b.relabel f).group files').severity = (b.group files).severity :=
    congrArg (fun n : Nat => Severity.ofCount n) (LocationSet.length_relabel hs hfile)
  simp only [Group.unordered, UnorderedGroup.mk.injEq]
  exact ⟨Multiset.coe_eq_coe.mpr hoccurrences, rfl, hsample, hseverity⟩

theorem Relabels.perm_unordered_groups (h : Relabels f files files') (hk : 1 ≤ k)
    {ordered ordered' : List LocationSet}
    (hmem : ∀ s, s ∈ ordered ↔ s ∈ confirmedSets k m files)
    (hmem' : ∀ s, s ∈ ordered' ↔ s ∈ confirmedSets k m files') :
    (((loopBlocks k m files ordered).map (Block.group files)).map Group.unordered).Perm
      (((loopBlocks k m files' ordered').map (Block.group files')).map Group.unordered) := by
  have hsame : ((loopBlocks k m files ordered).map (Block.group files)).map Group.unordered =
      (((loopBlocks k m files ordered).map (Block.relabel f)).map (Block.group files')).map
        Group.unordered := by
    simp only [List.map_map]
    refine List.map_congr_left fun b hb => ?_
    obtain ⟨last, hsize, hrun⟩ := (mem_loopBlocks hmem).mp hb
    exact (h.unordered_group_relabel (repeats_of_run hrun.mem hk rfl hsize)
      (pairwise_of_mem_confirmedSets hrun.start_mem)).symm
  rw [hsame]
  exact ((h.perm_loopBlocks hmem hmem').map _).map _

section Metrics

variable {groups groups' : List Group}
  (h : (groups.map Group.unordered).Perm (groups'.map Group.unordered))
include h

/-- What a group tells without the order of its occurrences is told as often by both lists. -/
theorem perm_map_of_unordered {β : Type} {value : Group → β} (value' : UnorderedGroup → β)
    (hvalue : ∀ g, value g = value' g.unordered) :
    (groups.map value).Perm (groups'.map value) := by
  have hcomp : value = value' ∘ Group.unordered := funext hvalue
  rw [hcomp, ← List.map_map, ← List.map_map]
  exact h.map value'

theorem perm_duplicatedLines_of_unordered :
    (groups.map Group.duplicatedLines).Perm (groups'.map Group.duplicatedLines) := by
  apply perm_map_of_unordered h fun u => u.lineCount * ((u.occurrences.card : Int) - 1)
  intro g
  simp [Group.duplicatedLines, Group.unordered]

theorem perm_ofSeverity_of_unordered (severity : Severity) :
    ((ofSeverity severity groups).map Group.unordered).Perm
      ((ofSeverity severity groups').map Group.unordered) := by
  have hfilter (gs : List Group) : (ofSeverity severity gs).map Group.unordered =
      (gs.map Group.unordered).filter (·.severity == severity) := by
    rw [List.filter_map]
    rfl
  rw [hfilter, hfilter]
  exact h.filter _

theorem mem_paths_of_unordered (path : String) :
    path ∈ (groups.flatMap fun g => g.occurrences.map (·.path)) ↔
      path ∈ (groups'.flatMap fun g => g.occurrences.map (·.path)) := by
  have hpaths (gs : List Group) : path ∈ (gs.flatMap fun g => g.occurrences.map (·.path)) ↔
      ∃ u ∈ gs.map Group.unordered, ∃ o ∈ u.occurrences, o.path = path := by
    simp [Group.unordered]
  rw [hpaths, hpaths]
  simp only [h.mem_iff]

/-- The metrics do not tell in which order the files and the groups stand. -/
theorem summarize_eq_of_unordered (hfiles : files.Perm files') :
    summarize files groups = summarize files' groups' := by
  have hlines := Sequence.total_eq_of_perm (hfiles.map fun file => (file.lines.length : Int))
  have hduplicated := Sequence.total_eq_of_perm (perm_duplicatedLines_of_unordered h)
  have hlength : groups.length = groups'.length := by simpa using h.length_eq
  have hpaths := Sequence.length_eraseDups_eq (mem_paths_of_unordered h)
  have hlargest : (groups.map (·.lineCount)).max? = (groups'.map (·.lineCount)).max? :=
    Sequence.max?_eq_of_perm (perm_map_of_unordered h UnorderedGroup.lineCount fun g => rfl)
  simp only [summarize, hlines, hduplicated, hlength, hpaths, hlargest]

theorem breakdown_eq_of_unordered : breakdown groups = breakdown groups' := by
  have hlength (severity : Severity) :
      (ofSeverity severity groups).length = (ofSeverity severity groups').length := by
    simpa using (perm_ofSeverity_of_unordered h severity).length_eq
  have hlines (severity : Severity) :=
    Sequence.total_eq_of_perm
      (perm_duplicatedLines_of_unordered (perm_ofSeverity_of_unordered h severity))
  simp only [breakdown, hlength, hlines]

end Metrics

/-- A search of the same files in another order gives the same groups, but for the order of the groups
and of the occurrences in each of them, and the same metrics. -/
theorem detect_file_order_irrelevant (settings : Settings) (files files' : List CodeFile)
    (hk : 1 ≤ settings.minLines) (hm : 2 ≤ settings.maxOccurrences) (hfiles : files.Perm files') :
    ∃ groups groups', (detect settings files).outcome = .ok groups ∧
      (detect settings files').outcome = .ok groups' ∧
      (groups.map Group.unordered).Perm (groups'.map Group.unordered) ∧
      summarize files groups = summarize files' groups' ∧ breakdown groups = breakdown groups' := by
  obtain ⟨f, hf⟩ := Sequence.exists_positions_of_perm hfiles
  have h : Relabels f files files' := hf
  have hgroups := h.perm_unordered_groups (m := settings.maxOccurrences) hk
    (fun s => LocationSet.mem_sorted) (fun s => LocationSet.mem_sorted)
  have hsorted := ((perm_byKey _).map _).trans (hgroups.trans ((perm_byKey _).map _).symm)
  refine ⟨_, _, outcome_detect hk hm files, outcome_detect hk hm files', hsorted, ?_, ?_⟩
  · exact summarize_eq_of_unordered hsorted hfiles
  · exact breakdown_eq_of_unordered hsorted

/-- The groups of the sample project with its files in the reverse order: the occurrences of each
group stand the other way round. -/
def reversedGroups : List Group :=
  [⟨[⟨"b", 3, 5⟩, ⟨"a", 1, 2⟩], 2, [['x'], ['y']], .tolerable⟩,
    ⟨[⟨"c", 2, 2⟩, ⟨"a", 4, 4⟩], 1, [['z']], .tolerable⟩]

theorem outcome_detect_sampleFiles_reverse :
    (detect sampleSettings sampleFiles.reverse).outcome = .ok reversedGroups := by
  cbv

theorem sampleFiles_reversed :
    (sampleGroups.map Group.unordered).Perm (reversedGroups.map Group.unordered) ∧
    summarize sampleFiles sampleGroups = summarize sampleFiles.reverse reversedGroups ∧
    breakdown sampleGroups = breakdown reversedGroups := by
  obtain ⟨groups, groups', hd, hd', hall⟩ :=
    detect_file_order_irrelevant sampleSettings sampleFiles sampleFiles.reverse (by decide)
      (by decide) (List.reverse_perm sampleFiles).symm
  rw [outcome_detect_sampleFiles] at hd
  obtain rfl := Except.ok.inj hd
  rw [outcome_detect_sampleFiles_reverse] at hd'
  obtain rfl := Except.ok.inj hd'
  exact hall

end SourceCensus.Duplication
