import Mathlib.Algebra.Group.Action.Defs
import SourceCensus.Proofs.Report.CensusLines
import SourceCensus.Proofs.Source.CensusBalance
import SourceCensus.Proofs.Source.CodeLines

/-! # The size of a project -/

namespace SourceCensus

open Sequence
open Report (IsSmall IsSmallTally IsSmallCensus)
open Scan (LineKind)

structure Tally.IsWithin (t : Tally) (bound : Nat) : Prop where
  blank : 0 ≤ t.blank
  comment : 0 ≤ t.comment
  code : 0 ≤ t.code
  total : t.total ≤ bound

namespace Tally

variable {s t : Tally} {a b : Nat}

theorem isWithin_zero : (0 : Tally).IsWithin 0 :=
  ⟨Int.le_refl 0, Int.le_refl 0, Int.le_refl 0, Int.le_refl 0⟩

theorem isWithin_ofKind (kind : LineKind) : (ofKind kind).IsWithin 1 := by
  cases kind <;> exact ⟨by decide, by decide, by decide, by decide⟩

theorem IsWithin.add (hs : s.IsWithin a) (ht : t.IsWithin b) : (s + t).IsWithin (a + b) where
  blank := Int.add_nonneg hs.blank ht.blank
  comment := Int.add_nonneg hs.comment ht.comment
  code := Int.add_nonneg hs.code ht.code
  total := by
    rw [total_add, Int.natCast_add]
    exact Int.add_le_add hs.total ht.total

theorem IsWithin.mono (h : t.IsWithin a) (hab : a ≤ b) : t.IsWithin b :=
  { h with total := Int.le_trans h.total (Int.ofNat_le.mpr hab) }

theorem isWithin_ofKinds (kinds : List LineKind) : (ofKinds kinds).IsWithin kinds.length := by
  induction kinds with
  | nil => exact isWithin_zero
  | cons kind kinds ih =>
    rw [List.length_cons, Nat.add_comm]
    exact (isWithin_ofKind kind).add ih

theorem isWithin_sumTallies {α : Type} {items : List α} {tally : α → Tally} {size : α → Nat}
    (h : ∀ item ∈ items, (tally item).IsWithin (size item)) :
    (sumTallies (items.map tally)).IsWithin (items.map size).sum := by
  induction items with
  | nil => exact isWithin_zero
  | cons item items ih =>
    obtain ⟨hown, hrest⟩ := List.forall_mem_cons.mp h
    exact hown.add (ih hrest)

theorem IsWithin.isSmall (h : t.IsWithin a) (ha : a < 2 ^ 256) : IsSmallTally t := by
  obtain ⟨hblank, hcomment, hcode, htotal⟩ := h
  unfold Tally.total at htotal
  constructor
  · exact .of_nonneg_of_le (b := a) hblank (by omega) (by omega)
  · exact .of_nonneg_of_le (b := a) hcomment (by omega) (by omega)
  · exact .of_nonneg_of_le (b := a) hcode (by omega) (by omega)

end Tally

section Languages

variable {files : List CountedFile} {l : LanguageCount}

def lineTotal (files : List CountedFile) : Nat :=
  (files.map (·.reading.kinds.length)).sum

theorem isWithin_tally_of_mem (hl : l ∈ languageCounts files) : l.tally.IsWithin (lineTotal files) := by
  obtain ⟨name, -, rfl⟩ := exists_ofFiles_of_mem hl
  have hown : (sumTallies ((files.filter (·.language == name)).map CountedFile.tally)).IsWithin
      ((files.filter (·.language == name)).map (·.reading.kinds.length)).sum :=
    Tally.isWithin_sumTallies fun file _ => Tally.isWithin_ofKinds file.reading.kinds
  exact hown.mono ((List.filter_sublist.map _).sum_le_sum fun _ _ => Nat.zero_le _)

theorem files_le_of_mem (hl : l ∈ languageCounts files) : 0 ≤ l.files ∧ l.files ≤ files.length := by
  obtain ⟨name, -, rfl⟩ := exists_ofFiles_of_mem hl
  exact ⟨Int.natCast_nonneg _, Int.ofNat_le.mpr (List.length_filter_le _ _)⟩

theorem length_languageCounts_le (files : List CountedFile) :
    (languageCounts files).length ≤ files.length := by
  have hsub : (files.map (·.language)).eraseDups.Subperm (files.map (·.language)) :=
    (nodup_eraseDups _).subperm fun name hname => List.mem_eraseDups.mp hname
  rw [languageCounts, List.length_mergeSort, List.length_map]
  exact hsub.length_le.trans_eq (List.length_map _)

theorem isWithin_totals (files : List CountedFile) :
    (sumTallies ((languageCounts files).map (·.tally))).IsWithin
      (files.length * lineTotal files) := by
  refine (Tally.isWithin_sumTallies fun l hl => isWithin_tally_of_mem hl).mono ?_
  rw [List.map_const', List.sum_replicate, smul_eq_mul]
  exact Nat.mul_le_mul_right _ (length_languageCounts_le files)

theorem totalFiles_within (files : List CountedFile) :
    0 ≤ total ((languageCounts files).map (·.files)) ∧
      total ((languageCounts files).map (·.files)) ≤ (files.length * files.length : Nat) := by
  obtain ⟨hnonneg, hbound⟩ := total_within (List.forall_mem_map.mpr fun l => files_le_of_mem)
  rw [List.length_map] at hbound
  have hmul := Nat.mul_le_mul_right files.length (length_languageCounts_le files)
  exact ⟨hnonneg, hbound.trans (Int.ofNat_le.mpr hmul)⟩

end Languages

variable {δ : Type} [DecidableEq δ] {digest : List UInt8 → δ} {store : Store}
  {sources : List Source} {elapsed : Int}

/-- The files of a project together with the lines of those that are text. -/
def projectSize (store : Store) (sources : List Source) : Nat :=
  sources.length + lineTotal (countedFiles store sources)

theorem length_countedFiles_le (store : Store) (sources : List Source) :
    (countedFiles store sources).length ≤ sources.length :=
  List.length_filterMap_le _ _

theorem length_uniqueFiles_le (digest : List UInt8 → δ) (store : Store) (sources : List Source) :
    (uniqueFiles digest store sources).length ≤ sources.length := by
  have hsplit := length_firsts_add_length_repeated
    (fun file : CountedFile => digest file.reading.content) (countedFiles store sources)
  have hle := length_countedFiles_le store sources
  unfold uniqueFiles
  omega

theorem lineTotal_uniqueFiles_le (digest : List UInt8 → δ) (store : Store) (sources : List Source) :
    lineTotal (uniqueFiles digest store sources) ≤ lineTotal (countedFiles store sources) := by
  have hsplit := ((firsts_append_repeated (fun file : CountedFile => digest file.reading.content)
    (countedFiles store sources)).map (·.reading.kinds.length)).sum_eq
  rw [List.map_append, List.sum_append] at hsplit
  unfold lineTotal uniqueFiles
  omega

theorem exists_source_of_mem_languages {l : LanguageCount}
    (hl : l ∈ (censusOf digest store sources).languages) :
    ∃ source ∈ sources, source.language.name = l.name := by
  rw [languages_censusOf] at hl
  obtain ⟨name, hname, rfl⟩ := exists_ofFiles_of_mem hl
  obtain ⟨file, hunique, rfl⟩ := List.mem_map.mp hname
  have hfile : file ∈ countedFiles store sources :=
    (firsts_append_repeated _ _).subset (List.mem_append_left _ hunique)
  obtain ⟨source, hsource, hreading⟩ := List.mem_filterMap.mp hfile
  obtain ⟨reading, -, rfl⟩ := Option.map_eq_some_iff.mp hreading
  exact ⟨source, hsource, rfl⟩

/-- The numbers of a project of moderate size are small. -/
theorem isSmall_censusOf (digest : List UInt8 → δ) (hsize : projectSize store sources < 2 ^ 100)
    (helapsed : IsSmall elapsed) :
    IsSmallCensus { censusOf digest store sources with elapsed } := by
  let n := projectSize store sources
  let files := uniqueFiles digest store sources
  have hfiles : sources.length ≤ n := Nat.le_add_right _ _
  have hunique : files.length ≤ n := (length_uniqueFiles_le digest store sources).trans hfiles
  have hlines : lineTotal files ≤ n :=
    (lineTotal_uniqueFiles_le digest store sources).trans (Nat.le_add_left _ _)
  have hsq : n * n < 2 ^ 256 :=
    calc n * n < 2 ^ 100 * 2 ^ 100 := Nat.mul_lt_mul'' hsize hsize
      _ < 2 ^ 256 := by decide
  have hsmall {k : Nat} (hk : k ≤ n) : IsSmall (k : Int) := Report.isSmall_natCast (by omega)
  constructor
  · intro l hl
    have hmem : l ∈ languageCounts files := by rwa [languages_censusOf] at hl
    obtain ⟨hnonneg, hbound⟩ := files_le_of_mem hmem
    exact ⟨.of_nonneg_of_le hnonneg hbound (by omega),
      (isWithin_tally_of_mem hmem).isSmall (by omega)⟩
  · rw [Report.countedFiles, languages_censusOf]
    obtain ⟨hnonneg, hbound⟩ := totalFiles_within files
    have hmul : files.length * files.length ≤ n * n := Nat.mul_le_mul hunique hunique
    exact .of_nonneg_of_le hnonneg hbound (by omega)
  · rw [totals_censusOf]
    exact ((isWithin_totals files).mono (Nat.mul_le_mul hunique hlines)).isSmall hsq
  · rw [totalFiles_censusOf]
    exact hsmall hfiles
  · rw [uniqueFiles_censusOf]
    exact hsmall hunique
  · rw [duplicateFiles_censusOf, skippedReadings_eq, List.length_map]
    have hsplit := length_firsts_add_length_repeated
      (fun file : CountedFile => digest file.reading.content) (countedFiles store sources)
    have hcount := length_countedFiles_le store sources
    exact hsmall (by omega)
  · rw [binaryFiles_censusOf store sources false]
    have hsplit := length_scanOf store sources false
    exact hsmall (by omega)
  · exact helapsed

section Scan

variable {strip : Bool} {source : Source} {reading : Reading} {file : CodeFile} {line : CodeLine}

theorem length_codeLines_le (reading : Reading) (strip : Bool) :
    (reading.codeLines strip).length ≤ reading.kinds.length := by
  unfold Reading.codeLines CodeLine.ofKinds
  refine (List.length_filterMap_le _ _).trans ?_
  simp only [List.length_zipIdx, List.length_zip, List.length_take]
  omega

theorem number_of_mem_codeLines (h : line ∈ reading.codeLines strip) :
    0 ≤ line.number ∧ line.number ≤ reading.kinds.length := by
  obtain ⟨i, _, -, hkind, rfl⟩ := mem_ofKinds.mp h
  obtain ⟨hi, -⟩ := List.getElem?_eq_some_iff.mp hkind
  have hbound := hi.trans_le (List.length_take_le' _ reading.kinds)
  dsimp only
  omega

/-- A normalised file is made of the reading of a source file. -/
theorem exists_reading_of_mem_scanOf (h : file ∈ (scanOf store sources strip).files) :
    ∃ source ∈ sources, ∃ reading, reading? store source = some reading ∧
      file = source.normalized strip reading := by
  rw [files_scanOf] at h
  obtain ⟨source, hsource, hfile⟩ := List.mem_filterMap.mp h
  rw [codeFile?_eq] at hfile
  obtain ⟨reading, hreading, rfl⟩ := Option.map_eq_some_iff.mp hfile
  exact ⟨source, hsource, reading, hreading, rfl⟩

theorem length_kinds_le_lineTotal (hsource : source ∈ sources)
    (hreading : reading? store source = some reading) :
    reading.kinds.length ≤ lineTotal (countedFiles store sources) := by
  have hmem : (⟨source.language.name, reading⟩ : CountedFile) ∈ countedFiles store sources :=
    List.mem_filterMap.mpr ⟨source, hsource, by rw [hreading]; rfl⟩
  exact List.single_le_sum (fun _ _ => Nat.zero_le _) _
    (List.mem_map_of_mem (f := fun file : CountedFile => file.reading.kinds.length) hmem)

theorem total_lines_scanOf_le (store : Store) (sources : List Source) (strip : Bool) :
    total ((scanOf store sources strip).files.map fun file => (file.lines.length : Int)) ≤
      lineTotal (countedFiles store sources) := by
  rw [files_scanOf]
  induction sources with
  | nil => exact Int.le_refl 0
  | cons source rest ih =>
    unfold lineTotal countedFiles at ih ⊢
    rw [List.filterMap_cons, List.filterMap_cons, codeFile?_eq]
    cases hreading : reading? store source with
    | none => exact ih
    | some reading =>
      have hown : ((source.normalized strip reading).lines.length : Int) ≤ reading.kinds.length :=
        Int.ofNat_le.mpr (length_codeLines_le reading strip)
      simp only [Option.map_some, List.map_cons, total_cons, List.sum_cons, Int.natCast_add]
      exact Int.add_le_add hown ih

theorem number_within_of_mem_scanOf (hfile : file ∈ (scanOf store sources strip).files)
    (hline : line ∈ file.lines) :
    0 ≤ line.number ∧ line.number ≤ lineTotal (countedFiles store sources) := by
  obtain ⟨source, hsource, reading, hreading, rfl⟩ := exists_reading_of_mem_scanOf hfile
  obtain ⟨hnonneg, hbound⟩ := number_of_mem_codeLines hline
  have hle := length_kinds_le_lineTotal hsource hreading
  omega

end Scan

end SourceCensus
