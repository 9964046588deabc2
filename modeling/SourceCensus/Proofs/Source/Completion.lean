import Mathlib.Data.List.Basic
import SourceCensus.Proofs.Source.Outcomes
import SourceCensus.Proofs.Store.Tree

/-! # The order of completion -/

namespace SourceCensus

open FileOutcome

variable {store : Store} {strip : Bool} {sources : List Source} {positions completion : List Nat}
  {slots : List (FileOutcome CodeFile)} {workers : Workers}

/-- A fault ends a run with several workers as it ends one with a single worker. -/
theorem Workers.outcome_proceed {ε α β : Type} (workers : Workers) (first : Run ε α) (spare : α)
    (next : α → Run ε β) :
    (workers.proceed first spare next).outcome = first.outcome >>= fun a => (next a).outcome := by
  cases workers with
  | single => exact Run.outcome_bind first next
  | several =>
    unfold proceed
    cases h : first.outcome with
    | error fault => rfl
    | ok a => simp only [Run.outcome_bind, h]

/-- One completion: the outcome of the file at a position is put into the slot of the position. -/
def complete (store : Store) (strip : Bool) (sources : List Source)
    (slots : List (FileOutcome CodeFile)) (position : Nat) : List (FileOutcome CodeFile) :=
  match sources[position]? with
  | none => slots
  | some source => slots.set position (codeOutcome store strip source)

@[simp] theorem length_complete (position : Nat) :
    (complete store strip sources slots position).length = slots.length := by
  unfold complete
  split <;> simp

theorem getElem?_complete_self {position : Nat} {source : Source}
    (hsource : sources[position]? = some source) (hslots : position < slots.length) :
    (complete store strip sources slots position)[position]? =
      some (codeOutcome store strip source) := by
  simp [complete, hsource, hslots]

theorem getElem?_complete_of_ne {position other : Nat} (h : position ≠ other) :
    (complete store strip sources slots position)[other]? = slots[other]? := by
  unfold complete
  split
  · rfl
  · exact List.getElem?_set_ne h

theorem outcome_fillSlots (haddressable : ∀ source ∈ sources, source.IsAddressable) :
    (fillSlots workers store strip sources positions slots).outcome =
      .ok (positions.foldl (complete store strip sources) slots) := by
  induction positions generalizing slots with
  | nil => rfl
  | cons position rest ih =>
    rw [fillSlots, List.foldl_cons]
    cases hsource : sources[position]? with
    | none => simp only [ih, complete, hsource]
    | some source =>
      have hread : (normalizeOrSkip store strip source).outcome = _ :=
        (haddressable source (List.mem_of_getElem? hsource)).outcome_normalizeOrSkip
      simp only [Workers.outcome_proceed, hread, ok_bind, ih, complete, hsource]

/-- A file that cannot be asked for ends the run, whenever it is its turn. -/
theorem outcome_fillSlots_of_not_addressable {position : Nat} {source : Source}
    (hposition : position ∈ positions) (hsource : sources[position]? = some source)
    (h : ¬ source.IsAddressable) :
    (fillSlots workers store strip sources positions slots).outcome = .error .nullInPath := by
  induction positions generalizing slots with
  | nil => cases hposition
  | cons first rest ih =>
    rw [fillSlots]
    cases hfirst : sources[first]? with
    | none =>
      rcases List.mem_cons.mp hposition with rfl | hrest
      · rw [hsource] at hfirst
        cases hfirst
      · exact ih hrest
    | some own =>
      simp only [Workers.outcome_proceed]
      by_cases hown : own.IsAddressable
      · rw [hown.outcome_normalizeOrSkip, ok_bind]
        rcases List.mem_cons.mp hposition with rfl | hrest
        · rw [hsource] at hfirst
          cases hfirst
          exact absurd hown h
        · exact ih hrest
      · rw [outcome_normalizeOrSkip_of_not_addressable hown]
        rfl

theorem length_foldl_complete :
    (positions.foldl (complete store strip sources) slots).length = slots.length := by
  induction positions generalizing slots with
  | nil => rfl
  | cons position rest ih => rw [List.foldl_cons, ih, length_complete]

theorem getElem?_foldl_complete_of_not_mem {position : Nat} (h : position ∉ positions) :
    (positions.foldl (complete store strip sources) slots)[position]? = slots[position]? := by
  induction positions generalizing slots with
  | nil => rfl
  | cons first rest ih =>
    rw [List.mem_cons, not_or] at h
    rw [List.foldl_cons, ih h.2, getElem?_complete_of_ne (Ne.symm h.1)]

/-- After all completions the slot of a position that completed holds the outcome of its file, however
often and in which order the positions came. -/
theorem getElem?_foldl_complete {position : Nat} {source : Source} (h : position ∈ positions)
    (hsource : sources[position]? = some source) (hslots : position < slots.length) :
    (positions.foldl (complete store strip sources) slots)[position]? =
      some (codeOutcome store strip source) := by
  induction positions generalizing slots with
  | nil => cases h
  | cons first rest ih =>
    rw [List.foldl_cons]
    by_cases hrest : position ∈ rest
    · exact ih hrest (by rwa [length_complete])
    · obtain rfl : position = first := (List.mem_cons.mp h).resolve_right hrest
      rw [getElem?_foldl_complete_of_not_mem hrest, getElem?_complete_self hsource hslots]

/-- A run that completes every position leaves the outcomes of the files in their order. -/
theorem foldl_complete_eq (h : completion.Perm (List.range sources.length)) :
    completion.foldl (complete store strip sources) (List.replicate sources.length .binary) =
      sources.map (codeOutcome store strip) := by
  apply List.ext_getElem?
  intro position
  rw [List.getElem?_map]
  cases hsource : sources[position]? with
  | none =>
    have hlength : sources.length ≤ position := List.getElem?_eq_none_iff.mp hsource
    rw [List.getElem?_eq_none (by simpa [length_foldl_complete] using hlength)]
    rfl
  | some source =>
    have hlength : position < sources.length := (List.getElem?_eq_some_iff.mp hsource).1
    have hcompletes : position ∈ completion := h.mem_iff.mpr (List.mem_range.mpr hlength)
    exact getElem?_foldl_complete hcompletes hsource (by simpa using hlength)

theorem files_ofOutcomes (outcomes : List (FileOutcome CodeFile)) :
    (ProjectScan.ofOutcomes outcomes).files = outcomes.filterMap text? := by
  apply List.filterMap_congr
  intro outcome _
  cases outcome <;> rfl

theorem errors_ofOutcomes (outcomes : List (FileOutcome CodeFile)) :
    (ProjectScan.ofOutcomes outcomes).errors = outcomes.filterMap error? := by
  apply List.filterMap_congr
  intro outcome _
  cases outcome <;> rfl

theorem binaryFiles_ofOutcomes (outcomes : List (FileOutcome CodeFile)) :
    (ProjectScan.ofOutcomes outcomes).binaryFiles = outcomes.countP FileOutcome.isBinary := by
  apply List.countP_congr
  intro outcome _
  cases outcome <;> rfl

/-- The scan of a project: what becomes of each of its files, in order. -/
def scanOf (store : Store) (sources : List Source) (strip : Bool) : ProjectScan :=
  .ofOutcomes (sources.map (codeOutcome store strip))

theorem files_scanOf (store : Store) (sources : List Source) (strip : Bool) :
    (scanOf store sources strip).files = sources.filterMap (codeFile? store strip) := by
  rw [scanOf, files_ofOutcomes, List.filterMap_map]
  apply List.filterMap_congr
  intro source _
  exact text?_codeOutcome store strip source

theorem errors_scanOf (store : Store) (sources : List Source) (strip : Bool) :
    (scanOf store sources strip).errors = sources.filterMap (scanError? store) := by
  rw [scanOf, errors_ofOutcomes, List.filterMap_map]
  apply List.filterMap_congr
  intro source _
  rw [Function.comp_apply, codeOutcome, error?_map, error?_readOutcome]

theorem length_scanOf (store : Store) (sources : List Source) (strip : Bool) :
    (scanOf store sources strip).files.length + (scanOf store sources strip).errors.length +
      (scanOf store sources strip).binaryFiles = sources.length := by
  rw [scanOf, files_ofOutcomes, errors_ofOutcomes, binaryFiles_ofOutcomes, length_split,
    List.length_map]

theorem outcome_normalizeIn (haddressable : ∀ source ∈ sources, source.IsAddressable)
    (h : completion.Perm (List.range sources.length)) :
    (normalizeIn workers store sources strip completion).outcome =
      .ok (scanOf store sources strip) := by
  rw [normalizeIn, Run.outcome_bind, outcome_fillSlots haddressable, ok_bind, foldl_complete_eq h]
  rfl

theorem outcome_normalizeIn_of_not_addressable
    (hfault : ∃ source ∈ sources, ¬ source.IsAddressable)
    (h : completion.Perm (List.range sources.length)) :
    (normalizeIn workers store sources strip completion).outcome = .error .nullInPath := by
  obtain ⟨source, hmem, hsource⟩ := hfault
  obtain ⟨position, hposition⟩ := List.mem_iff_getElem?.mp hmem
  have hlength : position < sources.length := (List.getElem?_eq_some_iff.mp hposition).1
  have hcompletes : position ∈ completion := h.mem_iff.mpr (List.mem_range.mpr hlength)
  rw [normalizeIn, Run.outcome_bind,
    outcome_fillSlots_of_not_addressable hcompletes hposition hsource]
  rfl

theorem outcome_normalizeProject {jobs : Int} (hjobs : 0 < jobs) :
    (normalizeProject store sources strip jobs).outcome =
      (normalizeIn (.ofJobs jobs) store sources strip (List.range sources.length)).outcome.mapError
        .invalidPath := by
  rw [normalizeProject, if_neg (Int.not_le.mpr hjobs)]
  rfl

/-- Whatever the order in which the workers complete the files of a project, they end as a single
worker does.  Where every file can be asked for, that is in a scan of the text files and of the
errors of the unreadable files, both in the order of the project, and every file is counted once. -/
theorem completion_order_irrelevant (store : Store) (sources : List Source) (strip : Bool)
    {jobs : Int} (hjobs : 0 < jobs) (h : completion.Perm (List.range sources.length)) :
    (normalizeIn (.ofJobs jobs) store sources strip completion).outcome.mapError .invalidPath =
      (normalizeProject store sources strip 1).outcome ∧
    (normalizeProject store sources strip jobs).outcome =
      (normalizeProject store sources strip 1).outcome ∧
    ((∀ source ∈ sources, source.IsAddressable) →
      ∃ scan, (normalizeProject store sources strip 1).outcome = .ok scan ∧
        scan.files = sources.filterMap (codeFile? store strip) ∧
        scan.errors = sources.filterMap (scanError? store) ∧
        scan.files.length + scan.errors.length + scan.binaryFiles = sources.length) ∧
    ((∃ source ∈ sources, ¬ source.IsAddressable) →
      (normalizeProject store sources strip 1).outcome = .error (.invalidPath .nullInPath)) := by
  have hinOrder := List.Perm.refl (List.range sources.length)
  rw [outcome_normalizeProject hjobs, outcome_normalizeProject Int.one_pos]
  by_cases haddressable : ∀ source ∈ sources, source.IsAddressable
  · rw [outcome_normalizeIn haddressable h, outcome_normalizeIn haddressable hinOrder,
      outcome_normalizeIn haddressable hinOrder]
    refine ⟨rfl, rfl, fun _ => ?_, fun ⟨source, hmem, hsource⟩ => ?_⟩
    · exact ⟨_, rfl, files_scanOf store sources strip, errors_scanOf store sources strip,
        length_scanOf store sources strip⟩
    · exact absurd (haddressable source hmem) hsource
  · have hfault : ∃ source ∈ sources, ¬ source.IsAddressable := by
      simpa using haddressable
    rw [outcome_normalizeIn_of_not_addressable hfault h,
      outcome_normalizeIn_of_not_addressable hfault hinOrder,
      outcome_normalizeIn_of_not_addressable hfault hinOrder]
    exact ⟨rfl, rfl, fun hall => absurd hall haddressable, fun _ => rfl⟩

/-- A store with a text file, a binary file and nothing else. -/
def mixedStore : Store :=
  { base := "", current := []
    entries := [(["a"], .file [120, 10]), (["b"], .file [0])] }

/-- A source file of the store in a language without comments. -/
def plainSource (name : String) : Source :=
  ⟨[name], name, { name := "Plain" }⟩

/-- A text file that comes twice, a binary file and a missing one. -/
def mixedSources : List Source := ["a", "b", "c", "a"].map plainSource

theorem mixedSources_addressable : ∀ source ∈ mixedSources, source.IsAddressable := by
  simp only [mixedSources, plainSource, Source.IsAddressable, List.map_cons, List.map_nil,
    List.forall_mem_cons]
  decide

theorem mixedStore_isTree : mixedStore.IsTree := by
  decide

theorem fullRead_mixedStore :
    mixedStore.fullRead ["a"] = .ok [120, 10] ∧ mixedStore.fullRead ["b"] = .ok [0] ∧
    mixedStore.fullRead ["c"] = .error .noEntry := by
  refine ⟨mixedStore_isTree.fullRead_eq rfl (by decide),
    mixedStore_isTree.fullRead_eq rfl (by decide), ?_⟩
  have hentry : mixedStore.entry? ["c"] = none := rfl
  have hname : staysPut "c" = false ∧ ¬ Store.nameLimit < "c".utf8ByteSize := by decide
  have hfollow : mixedStore.follow false Store.linkLimit [] ["c"] = .ok (.vacant [] "c") := by
    simp [Store.follow, hname, hentry]
  have hshort : mixedStore.isTooLong ["c"] = false := by decide
  rw [Store.fullRead, hshort, Store.read, Store.status, Store.locate, hfollow]
  rfl

theorem readSource_mixedStore :
    (readSource mixedStore {} ["a"]).outcome = .ok (some ⟨[120, 10], [['x']], [.code]⟩) ∧
    (readSource mixedStore {} ["b"]).outcome = .ok none ∧
    (readSource mixedStore {} ["c"]).outcome = .error (.unreadable "/c" .noEntry) := by
  obtain ⟨ha, hb, hc⟩ := fullRead_mixedStore
  simp only [outcome_readSource, contentOf, ha, hb, hc]
  decide +kernel

theorem codeFiles_mixedSources : mixedSources.filterMap (codeFile? mixedStore false) =
    [⟨⟨.relative, ["a"]⟩, [⟨1, ['x']⟩]⟩, ⟨⟨.relative, ["a"]⟩, [⟨1, ['x']⟩]⟩] := by
  obtain ⟨ha, hb, hc⟩ := readSource_mixedStore
  have htext : codeFile? mixedStore false (plainSource "a") =
      some ⟨⟨.relative, ["a"]⟩, [⟨1, ['x']⟩]⟩ := by
    simp only [codeFile?_eq, reading?, plainSource, ha]
    decide +kernel
  have hbinary : codeFile? mixedStore false (plainSource "b") = none := by
    simp only [codeFile?_eq, reading?, plainSource, hb]
    rfl
  have hmissing : codeFile? mixedStore false (plainSource "c") = none := by
    simp only [codeFile?_eq, reading?, plainSource, hc]
    rfl
  simp [mixedSources, htext, hbinary, hmissing]

theorem scanErrors_mixedSources : mixedSources.filterMap (scanError? mixedStore) =
    [⟨"c", (ReadFault.unreadable "/c" .noEntry).message⟩] := by
  obtain ⟨ha, hb, hc⟩ := readSource_mixedStore
  simp [mixedSources, plainSource, scanError?, ha, hb, hc]

/-- Three workers complete the files out of order, the last first. -/
theorem mixedSources_completed_out_of_order :
    (0 : Int) < 3 ∧ [3, 1, 0, 2].Perm (List.range mixedSources.length) ∧
    (∀ source ∈ mixedSources, source.IsAddressable) ∧
    ∃ scan, (normalizeIn (.ofJobs 3) mixedStore mixedSources false [3, 1, 0, 2]).outcome.mapError
        ProjectFault.invalidPath = .ok scan ∧
      scan.files = [⟨⟨.relative, ["a"]⟩, [⟨1, ['x']⟩]⟩, ⟨⟨.relative, ["a"]⟩, [⟨1, ['x']⟩]⟩] ∧
      scan.errors = [⟨"c", (ReadFault.unreadable "/c" .noEntry).message⟩] ∧ scan.binaryFiles = 1 := by
  have hperm : [3, 1, 0, 2].Perm (List.range mixedSources.length) := by decide
  obtain ⟨hany, -, hscan, -⟩ :=
    completion_order_irrelevant mixedStore mixedSources false (by decide : (0 : Int) < 3) hperm
  obtain ⟨scan, hsingle, hfiles, herrors, hcount⟩ := hscan mixedSources_addressable
  rw [codeFiles_mixedSources] at hfiles
  rw [scanErrors_mixedSources] at herrors
  refine ⟨by decide, hperm, mixedSources_addressable, scan, hany.trans hsingle, hfiles, herrors, ?_⟩
  rw [hfiles, herrors] at hcount
  simp only [List.length_cons, List.length_nil, mixedSources, List.length_map] at hcount
  omega

end SourceCensus
