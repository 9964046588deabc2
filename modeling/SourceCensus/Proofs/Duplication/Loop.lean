import SourceCensus.Proofs.Duplication.Chains
import SourceCensus.Proofs.Duplication.CommonStart

/-! # The loop over the confirmed sets -/

namespace SourceCensus.Duplication

variable {files : List CodeFile} {minLines : Int} {confirmed consumed rest : List LocationSet}
  {s t r : LocationSet}

/-- The sets of the run around a confirmed set. -/
def runOf (confirmed : List LocationSet) (s : LocationSet) : List LocationSet :=
  shifts (chainStart confirmed s) ((backward confirmed s).length + (forward confirmed s).length + 1)

def blockAround (minLines : Int) (confirmed : List LocationSet) (s : LocationSet) : Block :=
  ⟨chainStart confirmed s,
    minLines + (backward confirmed s).length + (forward confirmed s).length⟩

theorem start_blockAround (minLines : Int) (confirmed : List LocationSet) (s : LocationSet) :
    (blockAround minLines confirmed s).start = chainStart confirmed s := rfl

theorem size_blockAround (minLines : Int) (confirmed : List LocationSet) (s : LocationSet) :
    (blockAround minLines confirmed s).size =
      minLines + ((backward confirmed s).length + (forward confirmed s).length : Nat) := by
  simp only [blockAround]
  omega

def Block.windows (k : Int) (b : Block) : List LocationSet :=
  shifts b.start (b.size - k + 1).toNat

theorem windows_blockAround (minLines : Int) (confirmed : List LocationSet) (s : LocationSet) :
    (blockAround minLines confirmed s).windows minLines = runOf confirmed s := by
  simp only [Block.windows, blockAround, runOf]
  congr 1
  omega

theorem self_mem_runOf : s ∈ runOf confirmed s :=
  mem_visited.mp (by simp)

theorem mem_of_mem_runOf (hp : Placed confirmed) (hs : s ∈ confirmed) (ht : t ∈ runOf confirmed s) :
    t ∈ confirmed := by
  obtain ⟨j, hj, rfl⟩ := mem_shifts.mp ht
  exact (maximalRun_chainStart hp hs).mem j (by omega)

theorem blockAround_eq_of_mem_runOf (minLines : Int) (hp : Placed confirmed) (hs : s ∈ confirmed)
    (ht : t ∈ runOf confirmed s) :
    blockAround minLines confirmed t = blockAround minLines confirmed s := by
  have htc := mem_of_mem_runOf hp hs ht
  obtain ⟨j, hj, hshift⟩ := mem_shifts.mp ht
  have heq := (shift_chainStart confirmed t).trans hshift
  obtain ⟨hstart, hlast⟩ := (maximalRun_chainStart hp htc).eq_of_shift_eq
    (maximalRun_chainStart hp hs) (by omega) (by omega) heq
  simp only [blockAround, Block.mk.injEq]
  exact ⟨hstart, by omega⟩

theorem runOf_eq_of_mem_runOf (hp : Placed confirmed) (hs : s ∈ confirmed)
    (ht : t ∈ runOf confirmed s) : runOf confirmed t = runOf confirmed s := by
  rw [← windows_blockAround 0, blockAround_eq_of_mem_runOf 0 hp hs ht, windows_blockAround]

/-- Runs that share a set hold each other's entries. -/
theorem mem_runOf_of_common (hp : Placed confirmed) (hs : s ∈ confirmed) (hr : r ∈ confirmed)
    (hts : t ∈ runOf confirmed s) (htr : t ∈ runOf confirmed r) : s ∈ runOf confirmed r := by
  rw [← runOf_eq_of_mem_runOf hp hr htr, runOf_eq_of_mem_runOf hp hs hts]
  exact self_mem_runOf

theorem mem_runOf_chainStart (hp : Placed confirmed) (hs : s ∈ confirmed) :
    s ∈ runOf confirmed (chainStart confirmed s) := by
  have hstart : chainStart confirmed s ∈ runOf confirmed s :=
    mem_shifts.mpr ⟨0, by omega, by simp⟩
  rw [runOf_eq_of_mem_runOf hp hs hstart]
  exact self_mem_runOf

theorem not_lt_chainStart (h : s ≠ []) : ¬ s < chainStart confirmed s := by
  rw [chainStart_eq]
  rcases Nat.eq_zero_or_pos (backward confirmed s).length with h₀ | h₀
  · rw [h₀, Int.natCast_zero, Int.neg_zero, LocationSet.shift_zero]
    exact List.lt_irrefl s
  · exact List.lt_asymm (LocationSet.shift_lt_self h (by omega))

/-- The sets at which the loop opens a block, after the sets `consumed` have been taken up. -/
def roots (confirmed : List LocationSet) : List LocationSet → List LocationSet → List LocationSet
  | _, [] => []
  | consumed, s :: rest =>
    if consumed.contains s then roots confirmed consumed rest
    else s :: roots confirmed (s :: (backward confirmed s ++ forward confirmed s) ++ consumed) rest

theorem roots_cons_of_mem (h : s ∈ consumed) :
    roots confirmed consumed (s :: rest) = roots confirmed consumed rest := by
  simp [roots, h]

theorem roots_cons_of_notMem (h : s ∉ consumed) :
    roots confirmed consumed (s :: rest) = s :: roots confirmed
      (s :: (backward confirmed s ++ forward confirmed s) ++ consumed) rest := by
  simp [roots, h]

theorem mem_consumed_step : t ∈ s :: (backward confirmed s ++ forward confirmed s) ++ consumed ↔
    t ∈ runOf confirmed s ∨ t ∈ consumed := by
  rw [List.mem_append, mem_visited, runOf]

theorem mem_of_mem_roots (h : r ∈ roots confirmed consumed rest) : r ∈ rest ∧ r ∉ consumed := by
  induction rest generalizing consumed with
  | nil => simp [roots] at h
  | cons s rest ih =>
    by_cases hs : s ∈ consumed
    · rw [roots_cons_of_mem hs] at h
      exact ⟨List.mem_cons_of_mem _ (ih h).1, (ih h).2⟩
    · rw [roots_cons_of_notMem hs] at h
      rcases List.mem_cons.mp h with rfl | h
      · exact ⟨by simp, hs⟩
      · obtain ⟨hr, hn⟩ := ih h
        rw [mem_consumed_step] at hn
        exact ⟨List.mem_cons_of_mem _ hr, fun hc => hn (.inr hc)⟩

theorem roots_sublist : (roots confirmed consumed rest).Sublist rest := by
  induction rest generalizing consumed with
  | nil => exact List.Sublist.slnil
  | cons s rest ih =>
    by_cases hs : s ∈ consumed
    · rw [roots_cons_of_mem hs]
      exact ih.cons s
    · rw [roots_cons_of_notMem hs]
      exact ih.cons_cons s

/-- No block is opened inside the run of an earlier one. -/
theorem pairwise_roots :
    (roots confirmed consumed rest).Pairwise fun r r' => r' ∉ runOf confirmed r := by
  induction rest generalizing consumed with
  | nil => exact List.Pairwise.nil
  | cons s rest ih =>
    by_cases hs : s ∈ consumed
    · rw [roots_cons_of_mem hs]
      exact ih
    · rw [roots_cons_of_notMem hs]
      refine List.pairwise_cons.mpr ⟨?_, ih⟩
      intro r hr hmem
      exact (mem_of_mem_roots hr).2 (mem_consumed_step.mpr (.inl hmem))

/-- Every set of the order was consumed before or is consumed by a block of the loop. -/
theorem exists_root (h : s ∈ rest) :
    s ∈ consumed ∨ ∃ r ∈ roots confirmed consumed rest, s ∈ runOf confirmed r := by
  induction rest generalizing consumed with
  | nil => simp at h
  | cons u rest ih =>
    by_cases hu : u ∈ consumed
    · rw [roots_cons_of_mem hu]
      rcases List.mem_cons.mp h with rfl | h
      · exact .inl hu
      · exact ih h
    · rw [roots_cons_of_notMem hu]
      rcases List.mem_cons.mp h with rfl | h
      · exact .inr ⟨s, by simp, self_mem_runOf⟩
      · rcases ih h with hc | ⟨r, hr, hs⟩
        · rcases mem_consumed_step.mp hc with hc | hc
          · exact .inr ⟨u, by simp, hc⟩
          · exact .inl hc
        · exact .inr ⟨r, List.mem_cons_of_mem _ hr, hs⟩

theorem exists_root_of_mem (h : s ∈ rest) :
    ∃ r ∈ roots confirmed [] rest, s ∈ runOf confirmed r :=
  (exists_root h).resolve_left List.not_mem_nil

/-- What holds before each step of a loop that takes the confirmed sets in increasing order. -/
structure LoopInvariant (confirmed consumed rest : List LocationSet) : Prop where
  /-- With a set its whole run has been consumed. -/
  closed : ∀ s ∈ confirmed, s ∈ consumed → ∀ t ∈ runOf confirmed s, t ∈ consumed
  covers : ∀ t ∈ confirmed, t ∈ consumed ∨ t ∈ rest
  subset : ∀ t ∈ rest, t ∈ confirmed
  increasing : rest.Pairwise (· < ·)

namespace LoopInvariant

theorem of_sorted (hsorted : rest.Pairwise (· < ·)) (hmem : ∀ t, t ∈ rest ↔ t ∈ confirmed) :
    LoopInvariant confirmed [] rest where
  closed _ _ hs := absurd hs List.not_mem_nil
  covers t ht := .inr ((hmem t).mpr ht)
  subset t ht := (hmem t).mp ht
  increasing := hsorted

theorem mem_confirmed (h : LoopInvariant confirmed consumed (s :: rest)) : s ∈ confirmed :=
  h.subset s List.mem_cons_self

theorem skip (h : LoopInvariant confirmed consumed (s :: rest)) (hs : s ∈ consumed) :
    LoopInvariant confirmed consumed rest where
  closed := h.closed
  covers t ht := by
    rcases h.covers t ht with hc | hr
    · exact .inl hc
    · rcases List.mem_cons.mp hr with rfl | hr
      · exact .inl hs
      · exact .inr hr
  subset t ht := h.subset t (List.mem_cons_of_mem s ht)
  increasing := (List.pairwise_cons.mp h.increasing).2

/-- The loop opens a block at a set. -/
theorem step (hp : Placed confirmed) (h : LoopInvariant confirmed consumed (s :: rest)) :
    LoopInvariant confirmed
      (s :: (backward confirmed s ++ forward confirmed s) ++ consumed) rest where
  closed u hu hmem t ht := by
    rw [mem_consumed_step] at hmem ⊢
    rcases hmem with hmem | hmem
    · rw [runOf_eq_of_mem_runOf hp h.mem_confirmed hmem] at ht
      exact .inl ht
    · exact .inr (h.closed u hu hmem t ht)
  covers t ht := by
    rw [mem_consumed_step]
    rcases h.covers t ht with hc | hr
    · exact .inl (.inr hc)
    · rcases List.mem_cons.mp hr with rfl | hr
      · exact .inl (.inl self_mem_runOf)
      · exact .inr hr
  subset t ht := h.subset t (List.mem_cons_of_mem s ht)
  increasing := (List.pairwise_cons.mp h.increasing).2

/-- A set that no earlier block has consumed is the start of its run: the start comes no later than
the other sets of the run, and what came before has consumed whole runs. -/
theorem chainStart_eq_self (hp : Placed confirmed)
    (h : LoopInvariant confirmed consumed (s :: rest)) (hs : s ∉ consumed) :
    chainStart confirmed s = s := by
  have hsc := h.mem_confirmed
  have hrun := maximalRun_chainStart hp hsc
  rcases h.covers _ hrun.start_mem with hc | hr
  · exact absurd (h.closed _ hrun.start_mem hc s (mem_runOf_chainStart hp hsc)) hs
  · rcases List.mem_cons.mp hr with heq | hr
    · exact heq
    · exact absurd ((List.pairwise_cons.mp h.increasing).1 _ hr) (not_lt_chainStart (hp s hsc).1)

/-- In increasing order every block is opened at its start. -/
theorem chainStart_eq_self_of_mem_roots (hp : Placed confirmed)
    (h : LoopInvariant confirmed consumed rest) (hr : r ∈ roots confirmed consumed rest) :
    chainStart confirmed r = r := by
  induction rest generalizing consumed with
  | nil => simp [roots] at hr
  | cons s rest ih =>
    by_cases hs : s ∈ consumed
    · rw [roots_cons_of_mem hs] at hr
      exact ih (h.skip hs) hr
    · rw [roots_cons_of_notMem hs] at hr
      rcases List.mem_cons.mp hr with rfl | hr
      · exact h.chainStart_eq_self hp hs
      · exact ih (h.step hp) hr

end LoopInvariant

/-- A group as the loop emits it, with the start of its block. -/
structure Emission where
  start : LocationSet
  group : Group
  deriving DecidableEq, Repr

/-- The loop, with the start of each block kept beside the group. -/
def emissions (files : List CodeFile) (minLines : Int) (confirmed : List LocationSet) :
    List LocationSet → List LocationSet → Run Fault (List Emission)
  | _, [] => pure []
  | consumed, s :: rest =>
    if consumed.contains s then emissions files minLines confirmed consumed rest
    else do
      let group? ← blockGroup? files minLines confirmed s
      let visited := s :: (backward confirmed s ++ forward confirmed s)
      let later ← emissions files minLines confirmed (visited ++ consumed) rest
      return (group?.map (Emission.mk (chainStart confirmed s))).toList ++ later

/-- Keeping the starts changes neither the groups nor the notices. -/
theorem collect_eq_emissions (files : List CodeFile) (minLines : Int)
    (confirmed consumed ordered : List LocationSet) :
    collect files minLines confirmed consumed ordered =
      List.map Emission.group <$> emissions files minLines confirmed consumed ordered := by
  induction ordered generalizing consumed with
  | nil => simp [collect, emissions]
  | cons s rest ih =>
    rw [collect, emissions]
    split
    · exact ih consumed
    · simp only [ih, map_bind, bind_map_left, map_pure]
      congr 1
      funext group?
      cases group? <;> simp

section RepeatedBlocks

variable {b : Block}

theorem Block.Repeats.outcome_verify (h : b.Repeats files) :
    (verify files b.size b.start).outcome = .ok b.size.toNat := by
  rw [h.verify_eq_pure, Run.outcome_pure]

/-- The loop reports a repeated block of enough lines in full. -/
theorem outcome_blockGroup? (h : (blockAround minLines confirmed s).Repeats files) :
    (blockGroup? files minLines confirmed s).outcome =
      .ok (some ((blockAround minLines confirmed s).group files)) := by
  have hpos := h.pos
  have hv := h.outcome_verify
  have hg := h.groupAt_eq
  have hcast : ((blockAround minLines confirmed s).size.toNat : Int) =
      (blockAround minLines confirmed s).size := by omega
  have hle : ¬ (blockAround minLines confirmed s).size < minLines := by
    simp only [blockAround]
    omega
  simp only [blockGroup?, Run.outcome_bind]
  change (verify files (blockAround minLines confirmed s).size
    (blockAround minLines confirmed s).start).outcome >>= _ = _
  rw [hv, ok_bind, hcast, if_neg hle, Run.outcome_map, Run.outcome_ofExcept]
  change some <$> groupAt files (blockAround minLines confirmed s).size
    (blockAround minLines confirmed s).start = _
  rw [hg, map_ok]

theorem outcome_emissions
    (h : ∀ s ∈ rest, (blockAround minLines confirmed s).Repeats files) :
    (emissions files minLines confirmed consumed rest).outcome =
      .ok ((roots confirmed consumed rest).map fun s =>
        ⟨chainStart confirmed s, (blockAround minLines confirmed s).group files⟩) := by
  induction rest generalizing consumed with
  | nil => rfl
  | cons s rest ih =>
    have hrest : ∀ t ∈ rest, (blockAround minLines confirmed t).Repeats files :=
      fun t ht => h t (by simp [ht])
    by_cases hs : s ∈ consumed
    · rw [roots_cons_of_mem hs, emissions, if_pos (by simpa using hs)]
      exact ih hrest
    · rw [roots_cons_of_notMem hs, emissions, if_neg (by simpa using hs)]
      simp only [Run.outcome_bind, outcome_blockGroup? (h s (by simp)), ok_bind, ih hrest]
      rfl

end RepeatedBlocks

theorem outcome_detectFrom {ordered : List LocationSet}
    (h : ∀ s ∈ ordered, (blockAround minLines confirmed s).Repeats files) :
    (detectFrom files minLines confirmed ordered).outcome =
      sortGroups ((roots confirmed [] ordered).map fun s =>
        (blockAround minLines confirmed s).group files) := by
  simp only [detectFrom, collect_eq_emissions, Run.outcome_bind, Run.outcome_map,
    outcome_emissions h, map_ok, ok_bind, Run.outcome_note, Run.outcome_ofExcept, List.map_map,
    Function.comp_def]

end SourceCensus.Duplication
