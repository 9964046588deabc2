import Mathlib.Data.List.ReduceOption
import Mathlib.Data.Set.Card
import SourceCensus.Proofs.Duplication.DetectedBlocks

/-! # Blocks are reported in full -/

namespace SourceCensus.Duplication

variable {files : List CodeFile} {k m : Int} {s : LocationSet}
  {confirmed consumed ordered : List LocationSet}

/-- The loop as the list of its calls: one for each set at which it opens a block. -/
theorem collect_eq_mapM_roots (files : List CodeFile) (k : Int)
    (confirmed consumed ordered : List LocationSet) :
    collect files k confirmed consumed ordered =
      List.reduceOption <$>
        (roots confirmed consumed ordered).mapM (blockGroup? files k confirmed) := by
  induction ordered generalizing consumed with
  | nil => simp [collect, roots]
  | cons s rest ih =>
    rw [collect]
    by_cases hs : s ∈ consumed
    · rw [if_pos (by simpa using hs), roots_cons_of_mem hs]
      exact ih consumed
    · rw [if_neg (by simpa using hs), roots_cons_of_notMem hs, List.mapM_cons]
      simp only [ih, map_bind, bind_map_left, map_pure]
      congr 1
      funext group?
      cases group? <;> simp

/-- A repeated block goes through the loop without a notice. -/
theorem blockGroup?_eq_pure (h : (blockAround k confirmed s).Repeats files) :
    blockGroup? files k confirmed s = pure (some ((blockAround k confirmed s).group files)) := by
  have hpos := h.pos
  have hsize := size_blockAround k confirmed s
  have hcast :
      ((blockAround k confirmed s).size.toNat : Int) = (blockAround k confirmed s).size := by
    omega
  have hverify : verify files (k + (backward confirmed s).length + (forward confirmed s).length)
      (chainStart confirmed s) = pure (blockAround k confirmed s).size.toNat := h.verify_eq_pure
  have hgroup : groupAt files (blockAround k confirmed s).size (chainStart confirmed s) =
      .ok ((blockAround k confirmed s).group files) := h.groupAt_eq
  simp only [blockGroup?, hverify, pure_bind]
  rw [hcast, if_neg (by omega), hgroup, Run.ofExcept_ok, map_pure]

/-- A loop over sets with repeated blocks around them gives no notice. -/
theorem collect_eq_pure (h : ∀ s ∈ ordered, (blockAround k confirmed s).Repeats files) :
    collect files k confirmed consumed ordered =
      pure ((roots confirmed consumed ordered).map fun s =>
        (blockAround k confirmed s).group files) := by
  have hcalls : (roots confirmed consumed ordered).mapM (blockGroup? files k confirmed) = pure _ :=
    mapM_eq_pure fun s hs => blockGroup?_eq_pure (h s (mem_of_mem_roots hs).1)
  rw [collect_eq_mapM_roots, hcalls, map_pure, List.reduceOption, List.filterMap_map]
  simp

/-- A loop over sets with repeated blocks around them adds only the notice on its groups. -/
theorem notices_detectFrom (h : ∀ s ∈ ordered, (blockAround k confirmed s).Repeats files) :
    (detectFrom files k confirmed ordered).notices =
      [.duplicatesDetected files.length ordered.length (roots confirmed [] ordered).length] := by
  simp only [detectFrom, collect_eq_pure h, pure_bind, List.length_map]
  rfl

/-- In increasing order no walk from a set at which a block is opened goes back. -/
theorem LoopInvariant.backward_eq_nil_of_mem_roots (hp : Placed confirmed)
    (h : LoopInvariant confirmed consumed ordered) (hs : s ∈ roots confirmed consumed ordered) :
    backward confirmed s = [] := by
  have hne := (hp s (h.subset s (mem_of_mem_roots hs).1)).1
  have hstart := h.chainStart_eq_self_of_mem_roots hp hs
  have hshift : LocationSet.shift (-((backward confirmed s).length : Int)) s =
      LocationSet.shift 0 s := by
    rw [← chainStart_eq, hstart, LocationSet.shift_zero]
  have hlength := LocationSet.shift_right_injective hne hshift
  exact List.eq_nil_of_length_eq_zero (by omega)

theorem encard_maximalRun (hmem : ∀ s, s ∈ ordered ↔ s ∈ confirmedSets k m files) :
    {run : LocationSet × Nat | MaximalRun (confirmedSets k m files) run.1 run.2}.encard =
      (loopBlocks k m files ordered).length := by
  let runs := (loopBlocks k m files ordered).map fun b => (b.start, (b.size - k).toNat)
  have hruns : {run : LocationSet × Nat | MaximalRun (confirmedSets k m files) run.1 run.2} =
      {run | run ∈ runs} := by
    ext ⟨start, last⟩
    simp only [Set.mem_ofPred_eq, runs, List.mem_map, mem_loopBlocks hmem, Prod.mk.injEq]
    constructor
    · intro h
      refine ⟨⟨start, k + last⟩, ⟨last, rfl, h⟩, rfl, ?_⟩
      change (k + last - k).toNat = last
      omega
    · rintro ⟨b, ⟨last', hsize, h⟩, rfl, rfl⟩
      rwa [show (b.size - k).toNat = last' by omega]
  have hnodup : runs.Nodup := by
    refine (nodup_loopBlocks k m files ordered).map_on fun b hb b' hb' heq => ?_
    obtain ⟨last, hsize, -⟩ := (mem_loopBlocks hmem).mp hb
    obtain ⟨last', hsize', -⟩ := (mem_loopBlocks hmem).mp hb'
    obtain ⟨hstart, hlast⟩ := Prod.mk.inj heq
    have hsize : b.size = b'.size := by omega
    cases b
    cases b'
    simp only [Block.mk.injEq] at *
    exact ⟨hstart, hsize⟩
  rw [hruns, ← List.coe_toFinset, Set.encard_coe_eq_coe_finsetCard,
    List.toFinset_card_of_nodup hnodup, List.length_map]

/-- What happens at a set at which the loop opens a block: no step goes back, verification measures
all of the lines that the walks found and is silent, and a group of that many lines is emitted. -/
structure OpenedInFull (files : List CodeFile) (k : Int) (confirmed : List LocationSet)
    (s : LocationSet) : Prop where
  backward : backward confirmed s = []
  verified : ∃ verified : Nat,
    verify files (k + (Duplication.backward confirmed s).length + (forward confirmed s).length)
      (chainStart confirmed s) = pure verified ∧
    (verified : Int) = k + (Duplication.backward confirmed s).length + (forward confirmed s).length
  emitted : ∃ g, blockGroup? files k confirmed s = pure (some g) ∧
    g.lineCount = k + (Duplication.backward confirmed s).length + (forward confirmed s).length

theorem openedInFull (hrep : (blockAround k confirmed s).Repeats files)
    (hback : backward confirmed s = []) : OpenedInFull files k confirmed s where
  backward := hback
  verified := ⟨_, hrep.verify_eq_pure, Int.toNat_of_nonneg (by have := hrep.pos; omega)⟩
  emitted := ⟨_, blockGroup?_eq_pure hrep, rfl⟩

/-- In a search verification measures every block in full, and the search reports one group for each
maximal run of confirmed sets.  Between the notices on the buckets and the last one, on the groups,
it tells of no block that was shortened or dropped. -/
theorem blocks_reported_in_full (settings : Settings) (files : List CodeFile)
    (hk : 1 ≤ settings.minLines) (hm : 2 ≤ settings.maxOccurrences) :
    ∃ v groups,
      (index settings.minLines files >>= confirm settings files).outcome = .ok v ∧
      (detect settings files).outcome = .ok groups ∧
      collect files settings.minLines (v.confirmed.map (·.1)) [] v.ordered =
        List.reduceOption <$> (roots (v.confirmed.map (·.1)) [] v.ordered).mapM
          (blockGroup? files settings.minLines (v.confirmed.map (·.1))) ∧
      (∀ s ∈ roots (v.confirmed.map (·.1)) [] v.ordered,
        OpenedInFull files settings.minLines (v.confirmed.map (·.1)) s) ∧
      (detect settings files).notices =
        (index settings.minLines files >>= confirm settings files).notices ++
          [.duplicatesDetected files.length v.ordered.length groups.length] ∧
      {run : LocationSet × Nat | MaximalRun (v.confirmed.map (·.1)) run.1 run.2}.encard =
        groups.length := by
  let sets := confirmedSets settings.minLines settings.maxOccurrences files
  have hmem : ∀ s, s ∈ LocationSet.sorted sets ↔ s ∈ sets := fun s => LocationSet.mem_sorted
  have hrep : ∀ s ∈ LocationSet.sorted sets,
      (blockAround settings.minLines sets s).Repeats files :=
    fun s hs => repeats_blockAround hk ((hmem s).mp hs)
  have hp : Placed sets := placed_confirmedSets _ _ files
  have hinv : LoopInvariant sets [] (LocationSet.sorted sets) :=
    .of_sorted (pairwise_sorted_confirmedSets _ _ files) hmem
  have hv := outcome_confirm_index settings files
  refine ⟨_, _, hv, outcome_detect hk hm files, collect_eq_mapM_roots _ _ _ _ _, ?_, ?_, ?_⟩
  · intro s hs
    exact openedInFull (hrep s (mem_of_mem_roots hs).1) (hinv.backward_eq_nil_of_mem_roots hp hs)
  · have hdetect : detect settings files =
        Run.ofExcept settings.check >>= fun _ => (index settings.minLines files >>=
          confirm settings files) >>= fun v =>
            detectFrom files settings.minLines (v.confirmed.map (·.1)) v.ordered := by
      simp only [detect, bind_assoc]
    have hlength : (byKey ((loopBlocks settings.minLines settings.maxOccurrences files
        (LocationSet.sorted sets)).map (Block.group files))).length =
          (roots sets [] (LocationSet.sorted sets)).length := by
      rw [(perm_byKey _).length_eq, List.length_map, loopBlocks, List.length_map]
    rw [hdetect, check_eq_ok hk hm, Run.ofExcept_ok, pure_bind, Run.notices_bind hv, hlength]
    exact congrArg _ (notices_detectFrom hrep)
  · refine (encard_maximalRun hmem).trans ?_
    rw [(perm_byKey _).length_eq, List.length_map]

/-- The block of two lines of the sample project is opened at the first of them, measured as two
lines and reported; it and the line behind it are the two runs. -/
theorem sampleFiles_blocks_in_full :
    roots sampleSets [] sampleSets = [[⟨0, 0⟩, ⟨1, 1⟩], [⟨0, 2⟩, ⟨2, 0⟩]] ∧
    (forward sampleSets [⟨0, 0⟩, ⟨1, 1⟩]).length = 1 ∧
    OpenedInFull sampleFiles 1 sampleSets [⟨0, 0⟩, ⟨1, 1⟩] ∧
    {run : LocationSet × Nat | MaximalRun sampleSets run.1 run.2}.encard = 2 := by
  have hroots : roots sampleSets [] sampleSets = [[⟨0, 0⟩, ⟨1, 1⟩], [⟨0, 2⟩, ⟨2, 0⟩]] := by decide
  have hsets := outcome_confirm_sampleFiles
  obtain ⟨v, groups, hv, hd, -, hopened, -, hruns⟩ :=
    blocks_reported_in_full sampleSettings sampleFiles (by decide) (by decide)
  rw [outcome_detect_sampleFiles] at hd
  obtain rfl := Except.ok.inj hd
  rw [hv] at hsets
  obtain ⟨hconfirmed, hordered⟩ := Prod.mk.inj (Except.ok.inj hsets)
  rw [hconfirmed] at hopened hruns
  rw [hordered, hroots] at hopened
  exact ⟨hroots, by decide, hopened _ List.mem_cons_self, hruns⟩

end SourceCensus.Duplication
