import SourceCensus.Proofs.Duplication.DetectedBlocks

/-! # The order of the confirmed sets -/

namespace SourceCensus.Duplication

variable {files : List CodeFile} {k m size size' : Int} {a a' : Location}
  {ordered ordered' : List LocationSet}

/-- No two files have the same path. -/
def PathsDiffer (files : List CodeFile) : Prop :=
  (files.map fun file => file.path.text).Nodup

instance : Decidable (PathsDiffer files) :=
  inferInstanceAs (Decidable (files.map fun file => file.path.text).Nodup)

/-- In a file with increasing line numbers the numbers stand in the order of the lines. -/
theorem NumbersIncrease.number_le_iff (h : NumbersIncrease files) {file : CodeFile}
    (hf : file ∈ files) {i j : Nat} {line line' : CodeLine} (hi : file.lines[i]? = some line)
    (hj : file.lines[j]? = some line') : line.number ≤ line'.number ↔ i ≤ j := by
  have hlt {i j : Nat} {line line' : CodeLine} (hi : file.lines[i]? = some line)
      (hj : file.lines[j]? = some line') (hij : i < j) : line.number < line'.number := by
    obtain ⟨hilt, rfl⟩ := List.getElem?_eq_some_iff.mp hi
    obtain ⟨hjlt, rfl⟩ := List.getElem?_eq_some_iff.mp hj
    exact List.pairwise_iff_getElem.mp (h file hf) i j hilt hjlt hij
  constructor
  · intro hle
    by_contra hji
    exact absurd (hlt hj hi (by omega)) (by omega)
  · intro hij
    rcases Nat.lt_or_eq_of_le hij with hij | rfl
    · exact Int.le_of_lt (hlt hi hj hij)
    · rw [hi] at hj
      rw [Option.some.inj hj]

/-- What the first part of an occurrence tells: the file and the line at the location. -/
theorem Fits.occurrenceOf_first (h : Fits files size a) (hs : 1 ≤ size) :
    ∃ file line, files[a.file.toNat]? = some file ∧ file.lines[a.offset.toNat]? = some line ∧
      (occurrenceOf files size a).path = file.path.text ∧
      (occurrenceOf files size a).firstLine = line.number := by
  obtain ⟨file, first, last, hf, hfirst, -, ho⟩ := h.occurrenceAt_eq hs
  have hline : file.lines[a.offset.toNat]? = some first := by
    rw [List.head?_eq_getElem?, getElem?_linesAt h.placed (by omega), if_pos (by omega)] at hfirst
    simpa [lineAt?, hf] using hfirst
  refine ⟨file, first, hf, hline, ?_, ?_⟩
  · simp [occurrenceOf, ho, Except.toOption]
  · simp [occurrenceOf, ho, Except.toOption]

section FirstLines

variable (hp : PathsDiffer files) (ha : Fits files size a) (ha' : Fits files size' a')
  (hs : 1 ≤ size) (hs' : 1 ≤ size')
  (hpath : (occurrenceOf files size a).path = (occurrenceOf files size' a').path)
include hp ha ha' hs hs' hpath

theorem file_eq_of_path_eq : a.file = a'.file := by
  obtain ⟨file, line, hf, -, hpa, -⟩ := ha.occurrenceOf_first hs
  obtain ⟨file', line', hf', -, hpa', -⟩ := ha'.occurrenceOf_first hs'
  have hindex : a.file.toNat = a'.file.toNat := by
    apply Sequence.eq_of_nodup_map hp hf hf'
    rw [← hpa, hpath, hpa']
  have h₀ := ha.placed.1
  have h₀' := ha'.placed.1
  omega

/-- Blocks under one path are numbered in the order in which they start. -/
theorem firstLine_occurrenceOf_le_iff (hn : NumbersIncrease files) :
    (occurrenceOf files size a).firstLine ≤ (occurrenceOf files size' a').firstLine ↔
      a.offset ≤ a'.offset := by
  have hfile := file_eq_of_path_eq hp ha ha' hs hs' hpath
  obtain ⟨file, line, hf, hl, -, hla⟩ := ha.occurrenceOf_first hs
  obtain ⟨file', line', hf', hl', -, hla'⟩ := ha'.occurrenceOf_first hs'
  obtain rfl : file = file' := by
    rw [hfile, hf'] at hf
    exact (Option.some.inj hf).symm
  have hoffset := ha.placed.2
  have hoffset' := ha'.placed.2
  rw [hla, hla', hn.number_le_iff (List.mem_of_getElem? hf) hl hl']
  omega

/-- Blocks whose occurrences start at the same line of the same path stand at the same location. -/
theorem eq_of_occurrenceOf_first_eq (hn : NumbersIncrease files)
    (hline : (occurrenceOf files size a).firstLine = (occurrenceOf files size' a').firstLine) :
    a = a' := by
  have hfile := file_eq_of_path_eq hp ha ha' hs hs' hpath
  have hle := (firstLine_occurrenceOf_le_iff hp ha ha' hs hs' hpath hn).mp (Int.le_of_eq hline)
  have hge := (firstLine_occurrenceOf_le_iff hp ha' ha hs' hs hpath.symm hn).mp
    (Int.le_of_eq hline.symm)
  cases a
  cases a'
  simp only [Location.mk.injEq] at *
  omega

end FirstLines

section Orders

variable (hmem : ∀ s, s ∈ ordered ↔ s ∈ confirmedSets k m files)
include hmem

/-- Two blocks of the loop that share a location are the same. -/
theorem loopBlocks_eq_of_mem_start (hk : 1 ≤ k) {b b' : Block}
    (hb : b ∈ loopBlocks k m files ordered) (hb' : b' ∈ loopBlocks k m files ordered)
    (ha : a ∈ b.start) (ha' : a ∈ b'.start) : b = b' := by
  obtain ⟨last, hsize, hrun⟩ := (mem_loopBlocks hmem).mp hb
  obtain ⟨last', hsize', hrun'⟩ := (mem_loopBlocks hmem).mp hb'
  have hstart : b.start = b'.start := by
    have h₀ : ∀ j : Nat, j ≤ 0 → LocationSet.shift j b.start ∈ confirmedSets k m files :=
      fun j hj => hrun.mem j (by omega)
    have h₀' : ∀ j : Nat, j ≤ 0 → LocationSet.shift j b'.start ∈ confirmedSets k m files :=
      fun j hj => hrun'.mem j (by omega)
    rw [start_eq_occurrences h₀ hk ha, start_eq_occurrences h₀' hk ha']
  obtain ⟨-, hlast⟩ := hrun.eq_of_shift_eq hrun' (Nat.zero_le _) (Nat.zero_le _)
    (congrArg (LocationSet.shift (0 : Nat)) hstart)
  cases b
  cases b'
  simp only [Block.mk.injEq] at *
  exact ⟨hstart, by omega⟩

/-- The sort key of a group tells its block. -/
theorem loopBlocks_eq_of_key_eq (hk : 1 ≤ k) (hp : PathsDiffer files) (hn : NumbersIncrease files)
    {b b' : Block} (hb : b ∈ loopBlocks k m files ordered)
    (hb' : b' ∈ loopBlocks k m files ordered)
    (hkey : (b.group files).key = (b'.group files).key) : b = b' := by
  have hsub : ∀ s ∈ ordered, s ∈ confirmedSets k m files := fun s => (hmem s).mp
  have hrep := repeats_of_mem_loopBlocks hsub hk hb
  have hrep' := repeats_of_mem_loopBlocks hsub hk hb'
  obtain ⟨first, rest, hstart⟩ := List.exists_cons_of_ne_nil hrep.ne_nil
  obtain ⟨first', rest', hstart'⟩ := List.exists_cons_of_ne_nil hrep'.ne_nil
  have hf : first ∈ b.start := by simp [hstart]
  have hf' : first' ∈ b'.start := by simp [hstart']
  rw [Block.key_group hstart, Block.key_group hstart'] at hkey
  obtain ⟨-, -, hpath, hline⟩ := SortKey.mk.inj hkey
  obtain rfl : first = first' :=
    eq_of_occurrenceOf_first_eq hp (hrep.fits first hf) (hrep'.fits first' hf') hrep.pos
      hrep'.pos hpath hn hline
  exact loopBlocks_eq_of_mem_start hmem hk hb hb' hf hf'

/-- No tie is left to the sort. -/
theorem nodup_keys_loopBlocks (hk : 1 ≤ k) (hp : PathsDiffer files) (hn : NumbersIncrease files) :
    (((loopBlocks k m files ordered).map (Block.group files)).map Group.key).Nodup := by
  rw [List.map_map]
  refine (nodup_loopBlocks k m files ordered).map_on ?_
  intro b hb b' hb' hkey
  exact loopBlocks_eq_of_key_eq hmem hk hp hn hb hb' hkey

/-- All orders of the confirmed sets give the same blocks. -/
theorem perm_loopBlocks (hmem' : ∀ s, s ∈ ordered' ↔ s ∈ confirmedSets k m files) :
    (loopBlocks k m files ordered).Perm (loopBlocks k m files ordered') := by
  refine (List.perm_ext_iff_of_nodup (nodup_loopBlocks k m files ordered)
    (nodup_loopBlocks k m files ordered')).mpr fun b => ?_
  rw [mem_loopBlocks hmem, mem_loopBlocks hmem']

end Orders

theorem outcome_detectGiven {settings : Settings} (hk : 1 ≤ settings.minLines)
    (hm : 2 ≤ settings.maxOccurrences) (files : List CodeFile)
    (confirmed ordered : List LocationSet) :
    (detectGiven settings files confirmed ordered).outcome =
      (detectFrom files settings.minLines confirmed ordered).outcome := by
  simp only [detectGiven, index, Run.outcome_bind, Run.outcome_ofExcept, Run.outcome_note,
    Run.outcome_pure, check_eq_ok hk hm, ok_bind]

/-- Where the paths of the files differ and line numbers increase, a search gives the same groups in
the same order whatever the order in which the confirmed sets are taken, and no two of the groups
have the same sort key. -/
theorem detect_order_irrelevant (settings : Settings) (files : List CodeFile)
    (hk : 1 ≤ settings.minLines) (hm : 2 ≤ settings.maxOccurrences) (hp : PathsDiffer files)
    (hn : NumbersIncrease files) :
    ∃ v groups keys,
      (index settings.minLines files >>= confirm settings files).outcome = .ok v ∧
      (detect settings files).outcome = .ok groups ∧
      (∀ ordered : List LocationSet, ordered.Perm v.ordered →
        (detectGiven settings files (v.confirmed.map (·.1)) ordered).outcome = .ok groups) ∧
      groups.mapM Group.sortKey = .ok keys ∧ keys.Nodup := by
  let sets := confirmedSets settings.minLines settings.maxOccurrences files
  have hsorted : ∀ s, s ∈ LocationSet.sorted sets ↔ s ∈ sets := fun s => LocationSet.mem_sorted
  have hsub : ∀ s ∈ LocationSet.sorted sets, s ∈ sets := fun s => (hsorted s).mp
  let groups := (loopBlocks settings.minLines settings.maxOccurrences files
    (LocationSet.sorted sets)).map (Block.group files)
  have hperm : (byKey groups).Perm groups := perm_byKey groups
  refine ⟨_, byKey groups, (byKey groups).map Group.key, outcome_confirm_index settings files,
    outcome_detect hk hm files, ?_, ?_, ?_⟩
  · intro ordered hordered
    have hmem : ∀ s, s ∈ ordered ↔ s ∈ sets := fun s => hordered.mem_iff.trans (hsorted s)
    have hblocks := (perm_loopBlocks hmem hsorted).map (Block.group files)
    rw [outcome_detectGiven hk hm]
    refine (outcome_detectFrom_confirmedSets (fun s => (hmem s).mp) hk).trans ?_
    rw [byKey_eq_of_perm hblocks (nodup_keys_loopBlocks hmem hk hp hn)]
  · refine mapM_eq_ok fun g hg => ?_
    obtain ⟨b, hb, rfl⟩ := List.mem_map.mp (hperm.mem_iff.mp hg)
    exact (repeats_of_mem_loopBlocks hsub hk hb).sortKey_eq
  · exact (hperm.map Group.key).nodup_iff.mpr (nodup_keys_loopBlocks hsorted hk hp hn)

/-- The groups of the sample project, with the block of two lines entered at its second line. -/
theorem sampleFiles_order_irrelevant :
    PathsDiffer sampleFiles ∧ NumbersIncrease sampleFiles ∧
    (detectGiven sampleSettings sampleFiles sampleSets sampleSets.reverse).outcome =
      .ok sampleGroups ∧
    ∃ keys, sampleGroups.mapM Group.sortKey = .ok keys ∧ keys.Nodup := by
  have hp : PathsDiffer sampleFiles := by decide
  have hn : NumbersIncrease sampleFiles := by decide
  have hsets := outcome_confirm_sampleFiles
  obtain ⟨v, groups, keys, hv, hd, hall, hkeys, hnodup⟩ :=
    detect_order_irrelevant sampleSettings sampleFiles (by decide) (by decide) hp hn
  rw [outcome_detect_sampleFiles] at hd
  obtain rfl := Except.ok.inj hd
  rw [hv] at hsets
  obtain ⟨hconfirmed, hordered⟩ := Prod.mk.inj (Except.ok.inj hsets)
  rw [hconfirmed, hordered] at hall
  exact ⟨hp, hn, hall _ (List.reverse_perm sampleSets), keys, hkeys, hnodup⟩

end SourceCensus.Duplication
