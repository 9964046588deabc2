import Mathlib.Algebra.Group.Int.Defs
import Mathlib.Data.Prod.Lex
import Mathlib.Data.String.Basic
import SourceCensus.Proofs.Source.CodeTotals

/-! # The balance of a census -/

namespace SourceCensus

open FileOutcome Sequence
open Scan (LineKind)

section Firsts

variable {α δ : Type} [DecidableEq δ] {key : α → δ}

/-- What is taken hangs on which keys were met before, not on how often or in which order. -/
theorem firstsFrom_congr {seen seen' : List δ} (h : ∀ k, k ∈ seen ↔ k ∈ seen') (items : List α) :
    firstsFrom key seen items = firstsFrom key seen' items := by
  induction items generalizing seen seen' with
  | nil => rfl
  | cons a rest ih =>
    have hcontains : seen.contains (key a) = seen'.contains (key a) := by
      rw [Bool.eq_iff_iff, List.contains_iff_mem, List.contains_iff_mem, h]
    have hmore : ∀ k, k ∈ key a :: seen ↔ k ∈ key a :: seen' := fun k => by
      rw [List.mem_cons, List.mem_cons, h]
    rw [firstsFrom, firstsFrom, hcontains, ih h, ih hmore]

/-- Behind a part of the items those are taken whose key is met neither before nor in that part. -/
theorem firstsFrom_append (seen : List δ) (items more : List α) :
    firstsFrom key seen (items ++ more) =
      firstsFrom key seen items ++ firstsFrom key (items.map key ++ seen) more := by
  induction items generalizing seen with
  | nil => rfl
  | cons a rest ih =>
    rw [List.cons_append, firstsFrom, firstsFrom]
    by_cases h : seen.contains (key a) = true
    · have hmet : ∀ k, k ∈ rest.map key ++ seen ↔ k ∈ (a :: rest).map key ++ seen := fun k => by
        simp only [List.map_cons, List.cons_append, List.mem_cons, List.mem_append]
        exact ⟨Or.inr, fun hk => hk.elim (fun hk => .inr (hk ▸ List.contains_iff_mem.mp h)) id⟩
      rw [if_pos h, if_pos h, ih, firstsFrom_congr hmet]
    · have hmet : ∀ k, k ∈ rest.map key ++ key a :: seen ↔ k ∈ (a :: rest).map key ++ seen :=
        fun k => List.perm_middle.mem_iff
      rw [if_neg h, if_neg h, ih, firstsFrom_congr hmet, List.cons_append]

/-- One more item is taken if its key is new. -/
theorem firsts_concat (items : List α) (a : α) :
    firsts key (items ++ [a]) =
      if key a ∈ items.map key then firsts key items else firsts key items ++ [a] := by
  rw [firsts, firstsFrom_append, List.append_nil, firstsFrom, firstsFrom]
  simp only [List.contains_iff_mem]
  split_ifs
  · exact List.append_nil _
  · rfl

/-- The keys of what is taken are the different keys of all items. -/
theorem map_firsts (items : List α) : (firsts key items).map key = (items.map key).eraseDups := by
  induction items using List.reverseRecOn with
  | nil => rfl
  | append_singleton items a ih =>
    rw [List.map_append, List.map_singleton, eraseDups_concat, ← ih, firsts_concat]
    split_ifs
    · rfl
    · rw [List.map_append, List.map_singleton]

end Firsts

section Order

/-- What languages are ordered by: their code lines, from most to fewest, and then their names. -/
def LanguageCount.key (l : LanguageCount) : Int ×ₗ String :=
  toLex (-l.tally.code, l.name)

theorem LanguageCount.le_iff_key (a b : LanguageCount) : le a b = true ↔ a.key ≤ b.key := by
  simp only [key, Prod.Lex.toLex_le_toLex, le]
  split_ifs with h
  · have hne : ¬ -a.tally.code = -b.tally.code := fun heq => h (neg_inj.mp heq)
    simp [hne]
  · rw [not_not] at h
    simp [h]

theorem pairwise_languageCounts (files : List CountedFile) :
    (languageCounts files).Pairwise fun a b => a.key ≤ b.key := by
  refine (List.pairwise_mergeSort ?_ ?_ _).imp fun h => (LanguageCount.le_iff_key _ _).mp h
  · intro a b c hab hbc
    rw [LanguageCount.le_iff_key] at *
    exact hab.trans hbc
  · intro a b
    rw [Bool.or_eq_true, LanguageCount.le_iff_key, LanguageCount.le_iff_key]
    exact le_total _ _

theorem nodup_names_languageCounts (files : List CountedFile) :
    ((languageCounts files).map (·.name)).Nodup := by
  have hperm : ((languageCounts files).map (·.name)).Perm (files.map (·.language)).eraseDups := by
    refine ((List.mergeSort_perm _ _).map _).trans (List.Perm.of_eq ?_)
    rw [List.map_map]
    exact List.map_id _
  exact hperm.nodup_iff.mpr (nodup_eraseDups _)

/-- No two languages have the same place, as no two have the same name. -/
theorem strictly_ordered_languageCounts (files : List CountedFile) :
    ((languageCounts files).map LanguageCount.key).Pairwise (· < ·) := by
  have hnames := nodup_names_languageCounts files
  rw [List.Nodup, List.pairwise_map] at hnames
  rw [List.pairwise_map]
  refine (pairwise_languageCounts files).imp₂ (fun a b hle hne => ?_) hnames
  exact lt_of_le_of_ne hle fun hkey => hne (congrArg (fun k => (ofLex k).2) hkey)

end Order

section Census

variable {δ : Type} [DecidableEq δ] (digest : List UInt8 → δ) (store : Store)

def contentDigest? (source : Source) : Option δ :=
  (reading? store source).map (digest ·.content)

/-- The source file at a position of a project, if it is text and no text file before it has a content of
the same digest. -/
def freshFile? (sources : List Source) (position : Nat) : Option CountedFile := do
  let source ← sources[position]?
  let reading ← reading? store source
  if digest reading.content ∈ (sources.take position).filterMap (contentDigest? digest store) then
    none
  else some ⟨source.language.name, reading⟩

/-- The text files of a project whose content is not that of an earlier one. -/
def freshFiles (sources : List Source) : List CountedFile :=
  (List.range sources.length).filterMap (freshFile? digest store sources)

def uniqueFiles (sources : List Source) : List CountedFile :=
  firsts (fun file => digest file.reading.content) (countedFiles store sources)

omit [DecidableEq δ] in
theorem map_digest_countedFiles (sources : List Source) :
    (countedFiles store sources).map (fun file => digest file.reading.content) =
      sources.filterMap (contentDigest? digest store) := by
  rw [countedFiles, List.map_filterMap]
  apply List.filterMap_congr
  intro source _
  rw [contentDigest?, Option.map_map]
  rfl

theorem freshFile?_concat_of_lt {sources : List Source} {position : Nat}
    (h : position < sources.length) (source : Source) :
    freshFile? digest store (sources ++ [source]) position =
      freshFile? digest store sources position := by
  rw [freshFile?, freshFile?, List.getElem?_append_left h, List.take_append_of_le_length h.le]

theorem freshFile?_concat_length (sources : List Source) (source : Source) :
    freshFile? digest store (sources ++ [source]) sources.length =
      (reading? store source).bind fun reading =>
        if digest reading.content ∈ sources.filterMap (contentDigest? digest store) then none
        else some ⟨source.language.name, reading⟩ := by
  have hsource : (sources ++ [source])[sources.length]? = some source := by simp
  have hbefore : (sources ++ [source]).take sources.length = sources := by simp
  rw [freshFile?, hsource, hbefore]
  rfl

/-- One more file is fresh if it is text and its content is new. -/
theorem freshFiles_concat (sources : List Source) (source : Source) :
    freshFiles digest store (sources ++ [source]) = freshFiles digest store sources ++
      (freshFile? digest store (sources ++ [source]) sources.length).toList := by
  rw [freshFiles, List.length_append, List.length_singleton, List.range_succ, List.filterMap_append,
    freshFiles]
  congr 1
  apply List.filterMap_congr
  intro position hposition
  exact freshFile?_concat_of_lt digest store (List.mem_range.mp hposition) source

theorem uniqueFiles_eq_freshFiles (sources : List Source) :
    uniqueFiles digest store sources = freshFiles digest store sources := by
  induction sources using List.reverseRecOn with
  | nil => rfl
  | append_singleton sources source ih =>
    rw [freshFiles_concat, freshFile?_concat_length, ← ih, uniqueFiles, countedFiles,
      List.filterMap_append, ← countedFiles]
    cases hreading : reading? store source with
    | none => simp [hreading, uniqueFiles]
    | some reading =>
      rw [List.filterMap_cons_some (by rw [hreading]; rfl), List.filterMap_nil, firsts_concat,
        map_digest_countedFiles, Option.bind_some]
      split_ifs
      · exact (List.append_nil _).symm
      · rfl

theorem languages_censusOf (sources : List Source) :
    (censusOf digest store sources).languages =
      languageCounts (uniqueFiles digest store sources) := by
  simp only [censusOf, Census.ofOutcomes, textFiles_readingsOf]
  rfl

theorem totals_censusOf (sources : List Source) :
    (censusOf digest store sources).totals = sumTallies
      ((languageCounts (uniqueFiles digest store sources)).map (·.tally)) := by
  rw [← languages_censusOf]
  rfl

theorem totalFiles_censusOf (sources : List Source) :
    (censusOf digest store sources).totalFiles = sources.length := by
  simp [censusOf, Census.ofOutcomes, readingsOf]

theorem uniqueFiles_censusOf (sources : List Source) :
    (censusOf digest store sources).uniqueFiles = (uniqueFiles digest store sources).length := by
  simp only [censusOf, Census.ofOutcomes, textFiles_readingsOf]
  rfl

/-- Every text file is counted or skipped. -/
theorem uniqueFiles_add_duplicateFiles_censusOf (sources : List Source) :
    (censusOf digest store sources).uniqueFiles + (censusOf digest store sources).duplicateFiles =
      (sources.filterMap (reading? store)).length := by
  have hsplit := length_firsts_add_length_repeated
    (fun file : CountedFile => digest file.reading.content) (countedFiles store sources)
  rw [uniqueFiles_censusOf, duplicateFiles_censusOf, skippedReadings_eq, List.length_map,
    ← map_reading_countedFiles, List.length_map, ← hsplit, Int.natCast_add]
  rfl

theorem binaryFiles_censusOf_eq_countP (sources : List Source) :
    (censusOf digest store sources).binaryFiles =
      sources.countP fun source => (readOutcome store source).isBinary := by
  rw [binaryFiles_censusOf store sources false, scanOf, binaryFiles_ofOutcomes, List.countP_map]
  simp only [codeOutcome, Function.comp_def, isBinary_map]

theorem length_lines_of_mem_uniqueFiles {sources : List Source} {file : CountedFile}
    (h : file ∈ uniqueFiles digest store sources) :
    file.reading.lines.length = file.reading.kinds.length := by
  have hfile : file ∈ countedFiles store sources :=
    (firsts_append_repeated _ _).subset (List.mem_append_left _ h)
  obtain ⟨source, -, hreading⟩ := List.mem_filterMap.mp hfile
  obtain ⟨reading, hsome, rfl⟩ := Option.map_eq_some_iff.mp hreading
  exact length_lines_of_reading (outcome_readSource_of_reading? hsome)

end Census

/-- The numbers of a census agree with each other and with the files of the project, of which `counted`
are those that are counted. -/
structure Census.Balances (census : Census) (store : Store) (sources : List Source)
    (counted : List CountedFile) : Prop where
  totalFiles : census.totalFiles = sources.length
  outcomes : census.totalFiles =
    census.uniqueFiles + census.duplicateFiles + census.binaryFiles + census.errors.length
  uniqueFiles : census.uniqueFiles = counted.length
  binaryFiles : census.binaryFiles = sources.countP fun source => (readOutcome store source).isBinary
  errors : census.errors = sources.filterMap (scanError? store)
  languageFiles : total (census.languages.map (·.files)) = census.uniqueFiles
  totals : ∀ kind, census.totals.number kind = total (census.languages.map (·.tally.number kind))
  lines : census.totals.total = total (counted.map fun file => (file.reading.lines.length : Int))
  /-- A language has the files that are written in it, and their lines. -/
  ownFiles : ∀ l ∈ census.languages,
    l.files = (counted.filter (·.language == l.name)).length ∧
    ∀ kind, l.tally.number kind = total ((counted.filter (·.language == l.name)).map fun file =>
      (file.reading.kinds.count kind : Int))
  names : (census.languages.map (·.name)).Nodup
  ordered : (census.languages.map LanguageCount.key).Pairwise (· < ·)

section Balance

variable {δ : Type} [DecidableEq δ]

theorem total_map_one {α : Type} (items : List α) : total (items.map fun _ => 1) = items.length := by
  induction items with
  | nil => rfl
  | cons a items ih =>
    rw [List.map_cons, total_cons, ih, List.length_cons]
    omega

theorem number_tally (file : CountedFile) (kind : LineKind) :
    file.tally.number kind = file.reading.kinds.count kind :=
  Tally.number_ofKinds file.reading.kinds kind

theorem total_files_languageCounts (files : List CountedFile) :
    total ((languageCounts files).map (·.files)) = files.length := by
  rw [← total_map_one files]
  exact total_languageCounts fun name => (total_map_one _).symm

theorem total_sumTallies_map_tally (files : List CountedFile) :
    (sumTallies (files.map CountedFile.tally)).total =
      total (files.map fun file => (file.reading.kinds.length : Int)) := by
  induction files with
  | nil => rfl
  | cons file files ih =>
    rw [List.map_cons, List.map_cons, total_cons, ← ih, ← Tally.total_ofKinds]
    exact Tally.total_add file.tally (sumTallies (files.map CountedFile.tally))

theorem length_files_scanOf (store : Store) (sources : List Source) (strip : Bool) :
    (scanOf store sources strip).files.length = (sources.filterMap (reading? store)).length := by
  simp only [files_scanOf, List.length_filterMap_eq_countP, codeFile?_eq, Option.isSome_map]

theorem balances_censusOf (digest : List UInt8 → δ) (store : Store) (sources : List Source) :
    (censusOf digest store sources).Balances store sources (freshFiles digest store sources) := by
  rw [← uniqueFiles_eq_freshFiles]
  constructor
  case totalFiles => exact totalFiles_censusOf digest store sources
  case outcomes =>
    have hsplit := length_scanOf store sources false
    have hfiles := length_files_scanOf store sources false
    have htexts := uniqueFiles_add_duplicateFiles_censusOf digest store sources
    rw [totalFiles_censusOf, htexts, binaryFiles_censusOf store sources false, errors_censusOf,
      ← errors_scanOf store sources false]
    omega
  case uniqueFiles => exact uniqueFiles_censusOf digest store sources
  case binaryFiles => exact binaryFiles_censusOf_eq_countP digest store sources
  case errors => exact errors_censusOf store sources
  case languageFiles =>
    rw [languages_censusOf, uniqueFiles_censusOf, total_files_languageCounts]
  case totals =>
    intro kind
    rw [totals_censusOf, languages_censusOf, number_sumTallies, List.map_map]
    rfl
  case lines =>
    rw [totals_censusOf, sumTallies_languageCounts, total_sumTallies_map_tally]
    congr 1
    apply List.map_congr_left
    intro file hfile
    rw [length_lines_of_mem_uniqueFiles digest store hfile]
  case ownFiles =>
    intro l hl
    rw [languages_censusOf] at hl
    obtain ⟨name, -, rfl⟩ := exists_ofFiles_of_mem hl
    refine ⟨rfl, fun kind => ?_⟩
    simp only [number_ofFiles, number_tally]
    rfl
  case names =>
    rw [languages_censusOf]
    exact nodup_names_languageCounts _
  case ordered =>
    rw [languages_censusOf]
    exact strictly_ordered_languageCounts _

/-- The numbers of a census balance.  Every file is counted, a duplicate, binary or unreadable; the counted
files are the text files whose content is not that of an earlier text file, as far as the digest
tells, and each of them is a file of one language.  The totals are the sums over the languages and
count every line of every counted file once.  No language comes twice, and the languages come in
strict order, by their code lines from most to fewest and then by name.  Where a path cannot be asked for
there is no census. -/
theorem census_balances (digest : List UInt8 → δ) (store : Store) (sources : List Source) :
    ((∀ source ∈ sources, source.IsAddressable) →
      ∃ census, (takeCensus digest store sources).outcome = .ok census ∧
        census.Balances store sources (freshFiles digest store sources)) ∧
    ((∃ source ∈ sources, ¬ source.IsAddressable) →
      (takeCensus digest store sources).outcome = .error .nullInPath) :=
  ⟨fun haddressable => ⟨_, outcome_takeCensus haddressable, balances_censusOf digest store sources⟩,
    outcome_takeCensus_of_not_addressable⟩

theorem countedFiles_mixedSources : countedFiles mixedStore mixedSources =
    List.replicate 2 ⟨"Plain", ⟨[120, 10], [['x']], [.code]⟩⟩ := by
  obtain ⟨ha, hb, hc⟩ := readSource_mixedStore
  simp [countedFiles, mixedSources, plainSource, reading?, ha, hb, hc, Except.toOption]

theorem freshFiles_mixedSources : freshFiles id mixedStore mixedSources =
    [⟨"Plain", ⟨[120, 10], [['x']], [.code]⟩⟩] := by
  rw [← uniqueFiles_eq_freshFiles, uniqueFiles, countedFiles_mixedSources]
  rfl

/-- Of four files one is counted, one is a duplicate of it, one is binary and one is missing. -/
theorem mixedSources_balance : (∀ source ∈ mixedSources, source.IsAddressable) ∧
    ∃ census, (takeCensus id mixedStore mixedSources).outcome = .ok census ∧
      census.Balances mixedStore mixedSources [⟨"Plain", ⟨[120, 10], [['x']], [.code]⟩⟩] ∧
      census.uniqueFiles = 1 ∧ census.duplicateFiles = 1 ∧ census.binaryFiles = 1 ∧
      census.errors = [⟨"c", (ReadFault.unreadable "/c" .noEntry).message⟩] ∧
      census.totals.total = 1 := by
  have hbinary : (mixedSources.countP fun source => (readOutcome mixedStore source).isBinary) = 1 := by
    obtain ⟨ha, hb, hc⟩ := readSource_mixedStore
    simp [mixedSources, plainSource, readOutcome, FileOutcome.isBinary, ha, hb, hc]
  obtain ⟨census, hcensus, hbalances⟩ :=
    (census_balances id mixedStore mixedSources).1 mixedSources_addressable
  rw [freshFiles_mixedSources] at hbalances
  have hunique : census.uniqueFiles = 1 := hbalances.uniqueFiles
  have htwo : census.binaryFiles = 1 := by rw [hbalances.binaryFiles, hbinary]; rfl
  have herrors := hbalances.errors.trans scanErrors_mixedSources
  have hfour : census.totalFiles = 4 := hbalances.totalFiles
  have houtcomes := hbalances.outcomes
  rw [hfour, hunique, htwo, herrors, List.length_singleton] at houtcomes
  exact ⟨mixedSources_addressable, census, hcensus, hbalances, hunique, by omega, htwo, herrors,
    hbalances.lines⟩

end Balance

end SourceCensus
