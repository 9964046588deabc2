import SourceCensus.Proofs.Duplication.CommonStart
import SourceCensus.Proofs.Duplication.DetectedBlocks

/-! # Verification of given sets -/

namespace SourceCensus.Duplication

open LocationSet (shift)

variable {files : List CodeFile} {k n size : Int} {a : Location} {s : LocationSet}
  {confirmed consumed ordered : List LocationSet}

/-- A set that has a location, and whose locations are in files of the project, though maybe past
the end of them. -/
structure InFiles (files : List CodeFile) (s : LocationSet) : Prop where
  ne_nil : s ≠ []
  placed : ∀ a ∈ s, a.Placed
  file_lt : ∀ a ∈ s, a.file < files.length

instance : Decidable (InFiles files s) :=
  decidable_of_iff (s ≠ [] ∧ (∀ a ∈ s, 0 ≤ a.file ∧ 0 ≤ a.offset) ∧ ∀ a ∈ s, a.file < files.length)
    ⟨fun h => ⟨h.1, h.2.1, h.2.2⟩, fun h => ⟨h.ne_nil, h.placed, h.file_lt⟩⟩

theorem InFiles.readable (h : InFiles files s) : Readable files s where
  ne_nil := h.ne_nil
  file_bounds a ha := by
    have hp := (h.placed a ha).1
    have hlt := h.file_lt a ha
    omega
  offset_nonneg a ha := (h.placed a ha).2

theorem length_textOf (hp : a.Placed) (hs : 0 ≤ size) {file : CodeFile}
    (hf : files[a.file.toNat]? = some file) :
    (textOf files size a).length = min size.toNat (file.lines.length - a.offset.toNat) := by
  rw [textOf, List.length_map, linesAt, fileAt_eq_ok hp hf]
  simp only [CodeFile.block, Sequence.slice_add_of_nonneg _ hp.2 hs, List.length_take,
    List.length_drop]

theorem textOf_eq_nil (hp : a.Placed) (hf : files[a.file.toNat]? = none) :
    textOf files size a = [] := by
  simp [textOf, linesAt, fileAt, Sequence.item?_of_nonneg files hp.1, hf]

theorem length_textOf_le (hp : a.Placed) (hs : 0 ≤ size) :
    (textOf files size a).length ≤ size.toNat := by
  cases hf : files[a.file.toNat]? with
  | none => simp [textOf_eq_nil hp hf]
  | some file =>
    rw [length_textOf hp hs hf]
    exact Nat.min_le_left _ _

/-- A block lies in its file as far as a text that is read there is long enough. -/
theorem fits_iff_le_length {n : Nat} (hp : a.Placed) (hn : 1 ≤ n) (hns : (n : Int) ≤ size) :
    Fits files n a ↔ n ≤ (textOf files size a).length := by
  have hoffset := hp.2
  cases hf : files[a.file.toNat]? with
  | none =>
    rw [textOf_eq_nil hp hf, List.length_nil]
    constructor
    · rintro ⟨-, file, hf', -⟩
      rw [hf] at hf'
      cases hf'
    · omega
  | some file =>
    rw [length_textOf hp (by omega) hf]
    constructor
    · rintro ⟨-, file', hf', hl⟩
      obtain rfl : file = file' := by simpa [hf] using hf'
      omega
    · intro h
      exact ⟨hp, file, hf, by omega⟩

theorem le_commonSize_iff_repeats {n : Nat} (hs : s ≠ []) (hp : ∀ a ∈ s, a.Placed) (hn : 1 ≤ n)
    (hns : (n : Int) ≤ size) : n ≤ commonSize files size s ↔ Block.Repeats files ⟨s, n⟩ := by
  have htake : ∀ a ∈ s, textOf files n a = (textOf files size a).take n :=
    fun a ha => textOf_of_le (hp a ha) (Int.natCast_nonneg n) hns
  rw [le_commonSize_iff hs]
  constructor
  · intro h
    constructor
    · exact hs
    · exact Int.ofNat_le.mpr hn
    · intro a ha
      exact (fits_iff_le_length (hp a ha) hn hns).mpr (h a ha).1
    · intro a ha c hc
      rw [htake a ha, htake c hc]
      exact (h a ha).2 c hc
  · intro h a ha
    refine ⟨(fits_iff_le_length (hp a ha) hn hns).mp (h.fits a ha), fun c hc => ?_⟩
    rw [← htake a ha, ← htake c hc]
    exact h.same a ha c hc

theorem commonSize_le (hs : s ≠ []) (hp : ∀ a ∈ s, a.Placed) (hsize : 0 ≤ size) :
    (commonSize files size s : Int) ≤ size := by
  obtain ⟨a, ha⟩ := List.exists_mem_of_ne_nil s hs
  have hle := ((le_commonSize_iff hs).mp (Nat.le_refl (commonSize files size s)) a ha).1
  have hlen : (textOf files size a).length ≤ size.toNat := length_textOf_le (hp a ha) hsize
  omega

/-- A walk back steps only from locations that are not at the start of their file. -/
theorem InFiles.chainStart (h : InFiles files s) (confirmed : List LocationSet) :
    InFiles files (chainStart confirmed s) := by
  have hmem {a : Location} (ha : a ∈ Duplication.chainStart confirmed s) : ∃ c ∈ s,
      Location.shift (-((backward confirmed s).length : Int)) c = a := by
    rw [chainStart_eq] at ha
    exact List.mem_map.mp ha
  constructor
  · rw [chainStart_eq]
    simpa [shift] using h.ne_nil
  · intro _ ha
    obtain ⟨c, hc, rfl⟩ := hmem ha
    refine ⟨(h.placed c hc).1, ?_⟩
    have hoffset := (h.placed c hc).2
    rcases Nat.eq_zero_or_pos (backward confirmed s).length with h₀ | h₀
    · simpa [Location.shift, h₀] using hoffset
    · have hback := (step_of_lt_length_walk
        (show (backward confirmed s).length - 1 < (backward confirmed s).length by omega)).1
      simp only [canGoBack, List.all_eq_true, decide_eq_true_eq] at hback
      have hpos := hback _ (LocationSet.mem_shift.mpr hc)
      simp only [Location.shift] at hpos ⊢
      omega
  · intro _ ha
    obtain ⟨c, hc, rfl⟩ := hmem ha
    exact h.file_lt c hc

/-- The part of the block around a set that verification leaves. -/
def verifiedBlock (files : List CodeFile) (k : Int) (confirmed : List LocationSet)
    (s : LocationSet) : Block :=
  ⟨chainStart confirmed s,
    commonSize files (blockAround k confirmed s).size (chainStart confirmed s)⟩

section Loop

variable (hk : 1 ≤ k)
include hk

theorem repeats_verifiedBlock (h : InFiles files s) (hv : k ≤ (verifiedBlock files k confirmed s).size) :
    (verifiedBlock files k confirmed s).Repeats files := by
  have hstart := h.chainStart confirmed
  have hsize := size_blockAround k confirmed s
  refine (le_commonSize_iff_repeats hstart.ne_nil hstart.placed ?_ ?_).mp (Nat.le_refl _)
  · simp only [verifiedBlock] at hv
    omega
  · exact commonSize_le hstart.ne_nil hstart.placed (by omega)

/-- What the loop makes of a set: the block that verification leaves, unless it is too short. -/
theorem outcome_blockGroup?_of_inFiles (h : InFiles files s) :
    (blockGroup? files k confirmed s).outcome =
      .ok (if k ≤ (verifiedBlock files k confirmed s).size then
        some ((verifiedBlock files k confirmed s).group files) else none) := by
  let v := commonSize files (blockAround k confirmed s).size (chainStart confirmed s)
  have hverify : (verify files (blockAround k confirmed s).size (chainStart confirmed s)).outcome =
      .ok v := by
    simp [verify, Run.outcome_bind, (h.chainStart confirmed).readable.verifiedSize_eq_ok, v]
  simp only [blockGroup?, Run.outcome_bind]
  change (verify files (blockAround k confirmed s).size (chainStart confirmed s)).outcome >>= _ = _
  rw [hverify, ok_bind]
  by_cases hv : k ≤ (v : Int)
  · have hgroup : groupAt files v (chainStart confirmed s) = _ :=
      (repeats_verifiedBlock hk h hv).groupAt_eq
    rw [if_neg (Int.not_lt.mpr hv), Run.outcome_map, Run.outcome_ofExcept, hgroup, map_ok]
    exact congrArg Except.ok (if_pos hv).symm
  · rw [if_pos (Int.not_le.mp hv)]
    exact congrArg Except.ok (if_neg hv).symm

theorem outcome_emissions_of_inFiles (h : ∀ s ∈ ordered, InFiles files s) :
    (emissions files k confirmed consumed ordered).outcome =
      .ok ((((roots confirmed consumed ordered).map (verifiedBlock files k confirmed)).filter
        fun b => k ≤ b.size).map fun b => ⟨b.start, b.group files⟩) := by
  induction ordered generalizing consumed with
  | nil => rfl
  | cons s rest ih =>
    have hrest : ∀ t ∈ rest, InFiles files t := fun t ht => h t (List.mem_cons_of_mem s ht)
    by_cases hs : s ∈ consumed
    · rw [roots_cons_of_mem hs, emissions, if_pos (by simpa using hs)]
      exact ih hrest
    · rw [roots_cons_of_notMem hs, emissions, if_neg (by simpa using hs)]
      simp only [Run.outcome_bind, outcome_blockGroup?_of_inFiles hk (h s List.mem_cons_self),
        ok_bind, ih hrest, List.map_cons]
      by_cases hv : k ≤ (verifiedBlock files k confirmed s).size
      · rw [List.filter_cons_of_pos (by simpa using hv), if_pos hv]
        rfl
      · rw [List.filter_cons_of_neg (by simpa using hv), if_neg hv]
        rfl

end Loop

theorem le_size_verifiedBlock (hk : 1 ≤ k) (h : InFiles files s)
    (hrep : Block.Repeats files ⟨chainStart confirmed s, k⟩) :
    k ≤ (verifiedBlock files k confirmed s).size := by
  have hstart := h.chainStart confirmed
  have hsize := size_blockAround k confirmed s
  lift k to ℕ using (by omega)
  exact Int.ofNat_le.mpr ((le_commonSize_iff_repeats hstart.ne_nil hstart.placed
    (Int.ofNat_le.mp hk) (by omega)).mpr hrep)

/-- Whatever sets are given as confirmed, a loop over sets that have locations in the files of a
project ends without a fault.  Every group that it emits has `k` lines or more, and that many lines
are there and have the same text at each of its locations.  A block is dropped only if less than that
is the same at its locations. -/
theorem given_sets_verified (files : List CodeFile) (k : Int) (confirmed ordered : List LocationSet)
    (hk : 1 ≤ k) (h : ∀ s ∈ ordered, InFiles files s) :
    (∀ s ∈ ordered, Walks confirmed canGoBack (-1) s (backward confirmed s) ∧
      Walks confirmed (fun _ => true) 1 s (forward confirmed s)) ∧
    ∃ found groups, (emissions files k confirmed [] ordered).outcome = .ok found ∧
      (detectFrom files k confirmed ordered).outcome = .ok groups ∧
      sortGroups (found.map Emission.group) = .ok groups ∧
      (∀ e ∈ found, groupAt files e.group.lineCount e.start = .ok e.group ∧
        k ≤ e.group.lineCount ∧ Block.Repeats files ⟨e.start, e.group.lineCount⟩) ∧
      ∀ s ∈ roots confirmed [] ordered, Block.Repeats files ⟨chainStart confirmed s, k⟩ →
        ∃ e ∈ found, e.start = chainStart confirmed s := by
  constructor
  · intro s hs
    have hne := (h s hs).ne_nil
    exact ⟨walks_walk hne (by decide), walks_walk hne (by decide)⟩
  let blocks := ((roots confirmed [] ordered).map (verifiedBlock files k confirmed)).filter
    fun b => k ≤ b.size
  have hrep : ∀ b ∈ blocks, k ≤ b.size ∧ b.Repeats files := by
    intro b hb
    obtain ⟨hmem, hsize⟩ := List.mem_filter.mp hb
    obtain ⟨s, hs, rfl⟩ := List.mem_map.mp hmem
    have hle := of_decide_eq_true hsize
    exact ⟨hle, repeats_verifiedBlock hk (h s (mem_of_mem_roots hs).1) hle⟩
  have hsort : sortGroups (blocks.map (Block.group files)) =
      .ok (byKey (blocks.map (Block.group files))) := by
    apply sortGroups_eq_ok
    intro g hg
    obtain ⟨b, hb, rfl⟩ := List.mem_map.mp hg
    exact (hrep b hb).2.sortKey_eq
  have hfound : (emissions files k confirmed [] ordered).outcome =
      .ok (blocks.map fun b => ⟨b.start, b.group files⟩) := outcome_emissions_of_inFiles hk h
  have hgroups : (blocks.map fun b => (⟨b.start, b.group files⟩ : Emission)).map Emission.group =
      blocks.map (Block.group files) := by
    rw [List.map_map]
    rfl
  refine ⟨_, _, hfound, ?_, hgroups ▸ hsort, ?_, ?_⟩
  · simp only [detectFrom, collect_eq_emissions, Run.outcome_bind, Run.outcome_map, hfound, map_ok,
      ok_bind, Run.outcome_note, Run.outcome_ofExcept, hgroups, hsort]
  · intro e he
    obtain ⟨b, hb, rfl⟩ := List.mem_map.mp he
    exact ⟨(hrep b hb).2.groupAt_eq, hrep b hb⟩
  · intro s hs hcommon
    have hle := le_size_verifiedBlock hk (h s (mem_of_mem_roots hs).1) hcommon
    have hb : verifiedBlock files k confirmed s ∈ blocks :=
      List.mem_filter.mpr ⟨List.mem_map_of_mem hs, decide_eq_true hle⟩
    exact ⟨_, List.mem_map_of_mem hb, rfl⟩

/-- Sets that no validation of the sample project would confirm: three that follow each other, unsorted
and the last of them past the end of a file, one that lies past the end altogether, and one with
different texts. -/
def strangeSets : List LocationSet :=
  [[⟨1, 1⟩, ⟨0, 0⟩], [⟨1, 2⟩, ⟨0, 1⟩], [⟨1, 3⟩, ⟨0, 2⟩], [⟨0, 9⟩], [⟨0, 0⟩, ⟨2, 0⟩]]

theorem outcome_emissions_strangeSets :
    (emissions sampleFiles 1 strangeSets [] strangeSets.reverse).outcome =
      .ok [⟨[⟨1, 1⟩, ⟨0, 0⟩],
        ⟨[⟨"b", 3, 5⟩, ⟨"a", 1, 2⟩], 2, [['x'], ['y']], .tolerable⟩⟩] := by
  cbv

/-- Of the strange sets, taken from the last to the first, the lines that two files share remain. -/
theorem strangeSets_verified : (∀ s ∈ strangeSets.reverse, InFiles sampleFiles s) ∧
    ∃ groups, (detectFrom sampleFiles 1 strangeSets strangeSets.reverse).outcome = .ok groups ∧
      Block.Repeats sampleFiles ⟨[⟨1, 1⟩, ⟨0, 0⟩], 2⟩ := by
  have h : ∀ s ∈ strangeSets.reverse, InFiles sampleFiles s := by decide
  obtain ⟨-, found, groups, hfound, hgroups, -, hall, -⟩ :=
    given_sets_verified sampleFiles 1 strangeSets strangeSets.reverse (by decide) h
  rw [outcome_emissions_strangeSets] at hfound
  obtain rfl := Except.ok.inj hfound
  exact ⟨h, groups, hgroups, (hall _ List.mem_cons_self).2.2⟩

end SourceCensus.Duplication
