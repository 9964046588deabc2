import SourceCensus.Proofs.Source.Completion
import SourceCensus.Proofs.Source.CountingPass

/-! # The code lines of a project -/

namespace SourceCensus

open FileOutcome Sequence
open Scan (LineKind)

section Repeated

variable {α δ : Type} [DecidableEq δ] (key : α → δ) (f : α → Int)

/-- The items whose key is an earlier item's. -/
def repeated (items : List α) : List α :=
  (items.zipIdx.filter fun (item, position) =>
    ((items.take position).map key).contains (key item)).map (·.1)

/-- The items behind `earlier` whose key is an earlier item's. -/
private def repeatedBehind (earlier : List α) : List α → List α
  | [] => []
  | a :: rest =>
    if (earlier.map key).contains (key a) then a :: repeatedBehind (earlier ++ [a]) rest
    else repeatedBehind (earlier ++ [a]) rest

private theorem filter_zipIdx_eq (earlier rest : List α) :
    ((rest.zipIdx earlier.length).filter fun (item, position) =>
      (((earlier ++ rest).take position).map key).contains (key item)).map (·.1) =
        repeatedBehind key earlier rest := by
  induction rest generalizing earlier with
  | nil => rfl
  | cons a rest ih =>
    have hrest := ih (earlier ++ [a])
    rw [List.length_append, List.length_singleton, List.append_assoc, List.singleton_append] at hrest
    have htake : (earlier ++ a :: rest).take earlier.length = earlier := by simp
    rw [List.zipIdx_cons, List.filter_cons, repeatedBehind, ← hrest]
    simp only [htake]
    split <;> rfl

theorem repeated_eq_repeatedBehind (items : List α) : repeated key items = repeatedBehind key [] items :=
  filter_zipIdx_eq key [] items

/-- What is taken and what is skipped are all items, where `seen` are the keys met before. -/
private theorem firstsFrom_append_repeatedBehind {seen : List δ} {earlier : List α}
    (hseen : ∀ k, k ∈ seen ↔ k ∈ earlier.map key) (items : List α) :
    (firstsFrom key seen items ++ repeatedBehind key earlier items).Perm items := by
  induction items generalizing seen earlier with
  | nil => exact List.Perm.refl _
  | cons a rest ih =>
    have hcontains : seen.contains (key a) = (earlier.map key).contains (key a) := by
      rw [Bool.eq_iff_iff, List.contains_iff_mem, List.contains_iff_mem, hseen]
    rw [firstsFrom, repeatedBehind, hcontains]
    by_cases h : (earlier.map key).contains (key a) = true
    · have hmem : key a ∈ earlier.map key := List.contains_iff_mem.mp h
      rw [if_pos h, if_pos h]
      refine List.perm_middle.trans (List.Perm.cons a (ih fun k => ?_))
      rw [hseen, List.map_append, List.mem_append, List.map_singleton, List.mem_singleton]
      exact ⟨Or.inl, fun hk => hk.elim id fun hk => hk ▸ hmem⟩
    · rw [if_neg h, if_neg h, List.cons_append]
      refine List.Perm.cons a (ih fun k => ?_)
      rw [List.mem_cons, hseen, List.map_append, List.mem_append, List.map_singleton,
        List.mem_singleton, or_comm]

theorem firsts_append_repeated (items : List α) :
    (firsts key items ++ repeated key items).Perm items := by
  rw [firsts, repeated_eq_repeatedBehind]
  exact firstsFrom_append_repeatedBehind key (by simp) items

theorem total_firsts_add_total_repeated (items : List α) :
    total ((firsts key items).map f) + total ((repeated key items).map f) =
      total (items.map f) := by
  rw [← total_append, ← List.map_append]
  exact total_eq_of_perm ((firsts_append_repeated key items).map f)

theorem length_firsts_add_length_repeated (items : List α) :
    (firsts key items).length + (repeated key items).length = items.length := by
  rw [← List.length_append]
  exact (firsts_append_repeated key items).length_eq

/-- Where a map keeps the keys, it takes repeated items to repeated items. -/
theorem repeated_map {β : Type} (g : β → α) (items : List β) :
    repeated key (items.map g) = (repeated (key ∘ g) items).map g := by
  simp only [repeated, List.zipIdx_map, List.filter_map, List.map_map, ← List.map_take]
  rfl

end Repeated

def Reading.codeCount (reading : Reading) : Int :=
  reading.kinds.count .code

namespace Tally

def number (t : Tally) : LineKind → Int
  | .blank => t.blank
  | .comment => t.comment
  | .code => t.code

theorem number_add (s t : Tally) (kind : LineKind) :
    (s + t).number kind = s.number kind + t.number kind := by
  cases kind <;> rfl

theorem eq_of_number {s t : Tally} (h : ∀ kind, s.number kind = t.number kind) : s = t := by
  obtain ⟨blank, comment, code⟩ := s
  obtain ⟨blank', comment', code'⟩ := t
  obtain rfl : blank = blank' := h .blank
  obtain rfl : comment = comment' := h .comment
  obtain rfl : code = code' := h .code
  rfl

theorem number_ofKinds (kinds : List LineKind) (kind : LineKind) :
    (ofKinds kinds).number kind = kinds.count kind := by
  induction kinds with
  | nil => cases kind <;> rfl
  | cons first kinds ih =>
    rw [ofKinds_cons, number_add, ih, List.count_cons]
    cases first <;> cases kind <;> simp [ofKind, number, Int.add_comm]

end Tally

theorem number_sumTallies (tallies : List Tally) (kind : LineKind) :
    (sumTallies tallies).number kind = total (tallies.map (·.number kind)) := by
  induction tallies with
  | nil => cases kind <;> rfl
  | cons t tallies ih =>
    rw [List.map_cons, total_cons, ← ih]
    exact Tally.number_add t (sumTallies tallies) kind

section Languages

variable {files : List CountedFile}

theorem exists_ofFiles_of_mem {l : LanguageCount} (hl : l ∈ languageCounts files) :
    ∃ name ∈ files.map (·.language), l = .ofFiles name files := by
  obtain ⟨name, hname, rfl⟩ := List.mem_map.mp ((List.mergeSort_perm _ _).mem_iff.mp hl)
  exact ⟨name, List.mem_eraseDups.mp hname, rfl⟩

/-- What each language has of its files, all languages together have of all files. -/
theorem total_languageCounts {f : LanguageCount → Int} {g : CountedFile → Int}
    (hown : ∀ name, f (.ofFiles name files) =
      total ((files.filter (·.language == name)).map g)) :
    total ((languageCounts files).map f) = total (files.map g) := by
  let names := (files.map (·.language)).eraseDups
  have hcounts := (List.mergeSort_perm (names.map fun name => LanguageCount.ofFiles name files)
    LanguageCount.le).map f
  rw [languageCounts, total_eq_of_perm hcounts]
  simp only [List.map_map, Function.comp_def, hown]
  apply total_fibers CountedFile.language g (nodup_eraseDups _)
  intro file hfile
  exact List.mem_eraseDups.mpr (List.mem_map_of_mem hfile)

theorem number_ofFiles (name : String) (files : List CountedFile) (kind : LineKind) :
    (LanguageCount.ofFiles name files).tally.number kind =
      total ((files.filter (·.language == name)).map (·.tally.number kind)) := by
  rw [LanguageCount.ofFiles, number_sumTallies, List.map_map]
  rfl

/-- The languages together have the lines of all files. -/
theorem sumTallies_languageCounts (files : List CountedFile) :
    sumTallies ((languageCounts files).map (·.tally)) =
      sumTallies (files.map CountedFile.tally) := by
  refine Tally.eq_of_number fun kind => ?_
  rw [number_sumTallies, number_sumTallies, List.map_map, List.map_map]
  exact total_languageCounts fun name => number_ofFiles name files kind

theorem code_languageCounts (files : List CountedFile) :
    (sumTallies ((languageCounts files).map (·.tally))).code =
      total (files.map (·.reading.codeCount)) := by
  rw [sumTallies_languageCounts]
  refine (number_sumTallies (files.map CountedFile.tally) .code).trans ?_
  rw [List.map_map]
  congr 1
  apply List.map_congr_left
  intro file _
  exact Tally.number_ofKinds file.reading.kinds .code

end Languages

section Lines

theorem length_ofKinds {lines : List (List Char)} {kinds : List LineKind}
    (h : lines.length = kinds.length) :
    (CodeLine.ofKinds lines kinds).length = kinds.count .code := by
  have hkinds (number : Nat) :
      (((lines.zip kinds).zipIdx number).filterMap CodeLine.ofLine?).length = kinds.count .code := by
    induction lines generalizing kinds number with
    | nil =>
      obtain rfl := List.length_eq_zero_iff.mp h.symm
      rfl
    | cons line lines ih =>
      cases kinds with
      | nil => cases h
      | cons kind kinds =>
        rw [List.zip_cons_cons, List.zipIdx_cons, List.filterMap_cons, List.count_cons,
          ← ih (Nat.succ.inj h) (number + 1)]
        cases kind <;> rfl
  exact hkinds 1

theorem length_lines_of_reading {store : Store} {lexis : Lexis} {names : List String}
    {reading : Reading} (h : (readSource store lexis names).outcome = .ok (some reading)) :
    reading.lines.length = reading.kinds.length := by
  rw [outcome_readSource, bind_eq_ok_iff] at h
  obtain ⟨content, -, h⟩ := h
  unfold Reading.ofContent? at h
  split at h
  · cases h
  · split at h
    · cases h
      simp [Reading.ofText]
    · cases h

theorem length_codeLines {reading : Reading} (h : reading.lines.length = reading.kinds.length) :
    ((reading.codeLines false).length : Int) = reading.codeCount := by
  simp only [Reading.codeLines, Bool.false_eq_true, if_false]
  rw [List.take_length, h, List.take_length, length_ofKinds h, Reading.codeCount]

end Lines

variable {δ : Type} [DecidableEq δ] {digest : List UInt8 → δ} {store : Store}
  {sources : List Source}

/-- The files of a project that are text, with the names of their languages. -/
def countedFiles (store : Store) (sources : List Source) : List CountedFile :=
  sources.filterMap fun source => (reading? store source).map (⟨source.language.name, ·⟩)

theorem map_reading_countedFiles (store : Store) (sources : List Source) :
    (countedFiles store sources).map (·.reading) = sources.filterMap (reading? store) := by
  rw [countedFiles, List.map_filterMap]
  apply List.filterMap_congr
  intro source _
  cases reading? store source <;> rfl

/-- A scan that strips nothing holds the code lines of all readings. -/
theorem total_files_scanOf (store : Store) (sources : List Source) :
    total ((scanOf store sources false).files.map fun file => (file.lines.length : Int)) =
      total ((sources.filterMap (reading? store)).map Reading.codeCount) := by
  rw [files_scanOf, List.map_filterMap, List.map_filterMap]
  congr 1
  apply List.filterMap_congr
  intro source _
  rw [codeFile?_eq, Option.map_map]
  cases hreading : reading? store source with
  | none => rfl
  | some reading =>
    exact congrArg some
      (length_codeLines (length_lines_of_reading (outcome_readSource_of_reading? hreading)))

def readingsOf (store : Store) (sources : List Source) : List (Source × FileOutcome Reading) :=
  sources.map fun source => (source, readOutcome store source)

theorem outcome_countFiles (haddressable : ∀ source ∈ sources, source.IsAddressable)
    (counting : Counting δ) : (sources.foldlM (countFile digest store) counting).outcome =
      .ok ((readingsOf store sources).foldl
        (fun counting file => Counting.add digest counting file.1 file.2) counting) := by
  induction sources generalizing counting with
  | nil => rfl
  | cons source rest ih =>
    obtain ⟨hsource, hrest⟩ := List.forall_mem_cons.mp haddressable
    have hown : (countFile digest store counting source).outcome =
        .ok (counting.add digest source (readOutcome store source)) := by
      simp only [countFile, Run.outcome_bind, hsource.outcome_readOrSkip, ok_bind]
      rfl
    rw [List.foldlM_cons, Run.outcome_bind, hown, ok_bind, ih hrest]
    rfl

theorem outcome_countFiles_of_not_addressable (h : ∃ source ∈ sources, ¬ source.IsAddressable)
    (counting : Counting δ) :
    (sources.foldlM (countFile digest store) counting).outcome = .error .nullInPath := by
  induction sources generalizing counting with
  | nil => simp at h
  | cons source rest ih =>
    rw [List.foldlM_cons, Run.outcome_bind]
    by_cases hsource : source.IsAddressable
    · have hrest := ih (by simpa [hsource] using h)
      simp only [countFile, Run.outcome_bind, hsource.outcome_readOrSkip, ok_bind,
        Run.outcome_pure, hrest]
    · simp only [countFile, Run.outcome_bind, outcome_readOrSkip_of_not_addressable hsource]
      rfl

theorem textFiles_readingsOf (store : Store) (sources : List Source) :
    textFiles (readingsOf store sources) = countedFiles store sources := by
  rw [textFiles, readingsOf, List.filterMap_map, countedFiles]
  apply List.filterMap_congr
  intro source _
  rw [← text?_readOutcome]
  simp only [Function.comp_apply]
  cases readOutcome store source <;> rfl

variable (digest) in
def censusOf (store : Store) (sources : List Source) : Census :=
  .ofOutcomes digest (readingsOf store sources)

theorem outcome_takeCensus (haddressable : ∀ source ∈ sources, source.IsAddressable) :
    (takeCensus digest store sources).outcome = .ok (censusOf digest store sources) := by
  have hlength : sources.length = (readingsOf store sources).length := by simp [readingsOf]
  rw [takeCensus, Run.outcome_bind, outcome_countFiles haddressable, ok_bind, censusOf,
    ← census_foldl_add, ← hlength]
  rfl

theorem outcome_takeCensus_of_not_addressable (h : ∃ source ∈ sources, ¬ source.IsAddressable) :
    (takeCensus digest store sources).outcome = .error .nullInPath := by
  rw [takeCensus, Run.outcome_bind, outcome_countFiles_of_not_addressable h]
  rfl

theorem errors_censusOf (store : Store) (sources : List Source) :
    (censusOf digest store sources).errors = sources.filterMap (scanError? store) := by
  change (readingsOf store sources).filterMap _ = _
  rw [readingsOf, List.filterMap_map]
  apply List.filterMap_congr
  intro source _
  rw [← error?_readOutcome]
  simp only [Function.comp_apply]
  cases readOutcome store source <;> rfl

theorem binaryFiles_censusOf (store : Store) (sources : List Source) (strip : Bool) :
    (censusOf digest store sources).binaryFiles = (scanOf store sources strip).binaryFiles := by
  change (((readingsOf store sources).countP _ : Nat) : Int) = _
  rw [scanOf, binaryFiles_ofOutcomes, readingsOf, List.countP_map, List.countP_map]
  congr 1
  apply List.countP_congr
  intro source _
  rw [Function.comp_apply, Function.comp_apply, codeOutcome, isBinary_map]
  cases readOutcome store source <;> rfl

variable (digest) in
/-- The readings of the files that the count skips: those with the content of an earlier file. -/
def skippedReadings (store : Store) (sources : List Source) : List Reading :=
  repeated (fun reading => digest reading.content) (sources.filterMap (reading? store))

theorem skippedReadings_eq (store : Store) (sources : List Source) :
    skippedReadings digest store sources =
      (repeated (fun file : CountedFile => digest file.reading.content)
        (countedFiles store sources)).map (·.reading) := by
  rw [skippedReadings, ← map_reading_countedFiles, repeated_map]
  rfl

theorem duplicateFiles_censusOf (store : Store) (sources : List Source) :
    (censusOf digest store sources).duplicateFiles =
      (skippedReadings digest store sources).length := by
  have hsplit := length_firsts_add_length_repeated
    (fun file : CountedFile => digest file.reading.content) (countedFiles store sources)
  rw [skippedReadings_eq, List.length_map]
  simp only [censusOf, Census.ofOutcomes, textFiles_readingsOf]
  omega

theorem code_totals_censusOf (store : Store) (sources : List Source) :
    (censusOf digest store sources).totals.code +
        total ((skippedReadings digest store sources).map Reading.codeCount) =
      total ((sources.filterMap (reading? store)).map Reading.codeCount) := by
  have hsplit := total_firsts_add_total_repeated
    (fun file : CountedFile => digest file.reading.content) (·.reading.codeCount)
    (countedFiles store sources)
  rw [skippedReadings_eq, ← map_reading_countedFiles, List.map_map, List.map_map]
  simp only [censusOf, Census.ofOutcomes, textFiles_readingsOf, code_languageCounts]
  exact hsplit

/-- Counting lines and normalising a project give the same errors and the same number of binary files,
and the normalised lines are the code lines of the count and those of the files that it skips.  Where
a path cannot be asked for both end in the same fault. -/
theorem normalized_lines_counted (digest : List UInt8 → δ) (store : Store) (sources : List Source)
    {jobs : Int} (hjobs : 0 < jobs) :
    ((∀ source ∈ sources, source.IsAddressable) →
      ∃ census scan, (takeCensus digest store sources).outcome = .ok census ∧
        (normalizeProject store sources false jobs).outcome = .ok scan ∧
        scan.errors = census.errors ∧ scan.binaryFiles = census.binaryFiles ∧
        (skippedReadings digest store sources).length = census.duplicateFiles ∧
        total (scan.files.map fun file => (file.lines.length : Int)) = census.totals.code +
          total ((skippedReadings digest store sources).map Reading.codeCount)) ∧
    ((∃ source ∈ sources, ¬ source.IsAddressable) →
      (takeCensus digest store sources).outcome = .error .nullInPath ∧
      (normalizeProject store sources false jobs).outcome = .error (.invalidPath .nullInPath)) := by
  have hinOrder := List.Perm.refl (List.range sources.length)
  rw [outcome_normalizeProject hjobs]
  constructor
  · intro haddressable
    refine ⟨_, _, outcome_takeCensus haddressable,
      congrArg _ (outcome_normalizeIn haddressable hinOrder), ?_, ?_, ?_, ?_⟩
    · rw [errors_scanOf, errors_censusOf]
    · exact (binaryFiles_censusOf store sources false).symm
    · exact (duplicateFiles_censusOf store sources).symm
    · rw [total_files_scanOf, code_totals_censusOf]
  · intro hfault
    exact ⟨outcome_takeCensus_of_not_addressable hfault,
      congrArg _ (outcome_normalizeIn_of_not_addressable hfault hinOrder)⟩

def twinStore : Store :=
  { base := "", current := [], entries := [(["a"], .file [35, 10]), (["b"], .file [35, 10])] }

/-- The two files in different languages: the content is a comment in the first of them and code in
the second. -/
def twinSources : List Source :=
  [⟨["a"], "a", { name := "Hashed", lexis := { lineMarkers := [['#']] } }⟩,
    ⟨["b"], "b", { name := "Plain" }⟩]

theorem twinSources_addressable : ∀ source ∈ twinSources, source.IsAddressable := by
  simp only [twinSources, Source.IsAddressable, List.forall_mem_cons]
  decide

theorem twinStore_isTree : twinStore.IsTree := by
  decide

theorem fullRead_twinStore :
    twinStore.fullRead ["a"] = .ok [35, 10] ∧ twinStore.fullRead ["b"] = .ok [35, 10] :=
  ⟨twinStore_isTree.fullRead_eq rfl (by decide), twinStore_isTree.fullRead_eq rfl (by decide)⟩

theorem readings_twinSources : twinSources.filterMap (reading? twinStore) =
    [⟨[35, 10], [['#']], [.comment]⟩, ⟨[35, 10], [['#']], [.code]⟩] := by
  obtain ⟨ha, hb⟩ := fullRead_twinStore
  simp only [twinSources, List.filterMap_cons, List.filterMap_nil, reading?, outcome_readSource,
    contentOf, ha, hb]
  decide +kernel

/-- The second file is skipped by the count, and its line is code in its own language. -/
theorem twinSources_counted_once :
    (0 : Int) < 1 ∧ (∀ source ∈ twinSources, source.IsAddressable) ∧
    ∃ census scan, (takeCensus id twinStore twinSources).outcome = .ok census ∧
      (normalizeProject twinStore twinSources false 1).outcome = .ok scan ∧
      scan.errors = census.errors ∧ scan.binaryFiles = census.binaryFiles ∧
      census.duplicateFiles = 1 ∧ census.totals.code = 0 ∧
      total (scan.files.map fun file => (file.lines.length : Int)) = census.totals.code + 1 := by
  have hskipped : (skippedReadings id twinStore twinSources).map Reading.codeCount = [1] := by
    rw [skippedReadings, readings_twinSources]
    decide
  have hlength := congrArg List.length hskipped
  rw [List.length_map] at hlength
  have hcode : (censusOf id twinStore twinSources).totals.code = 0 := by
    have hsplit : (censusOf id twinStore twinSources).totals.code + _ = _ :=
      code_totals_censusOf twinStore twinSources
    rw [hskipped, readings_twinSources] at hsplit
    exact (Int.add_left_inj 1).mp hsplit
  obtain ⟨census, scan, hcensus, hscan, herrors, hbinary, hduplicates, htotal⟩ :=
    (normalized_lines_counted id twinStore twinSources Int.one_pos).1 twinSources_addressable
  rw [hskipped] at htotal
  rw [hlength] at hduplicates
  obtain rfl := Except.ok.inj ((outcome_takeCensus twinSources_addressable).symm.trans hcensus)
  exact ⟨Int.one_pos, twinSources_addressable, _, scan, hcensus, hscan, herrors, hbinary,
    hduplicates.symm, hcode, htotal⟩

end SourceCensus
