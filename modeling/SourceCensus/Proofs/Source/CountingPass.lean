import Mathlib.Data.List.Induction
import SourceCensus.Proofs.Sequence
import SourceCensus.Source.Census

/-! # What the one pass of a line count adds up to -/

namespace SourceCensus

/-- A file that was read as text, with the name of its language. -/
structure CountedFile where
  language : String
  reading : Reading
  deriving DecidableEq, Repr

/-- The items whose key is none of `seen` and none of an earlier item's. -/
def firstsFrom {α δ : Type} [DecidableEq δ] (key : α → δ) (seen : List δ) : List α → List α
  | [] => []
  | a :: rest =>
    if seen.contains (key a) then firstsFrom key seen rest
    else a :: firstsFrom key (key a :: seen) rest

/-- The items whose key is no earlier item's. -/
def firsts {α δ : Type} [DecidableEq δ] (key : α → δ) (items : List α) : List α :=
  firstsFrom key [] items

def CountedFile.tally (file : CountedFile) : Tally :=
  Tally.ofKinds file.reading.kinds

def LanguageCount.ofFiles (name : String) (files : List CountedFile) : LanguageCount :=
  let own := files.filter (·.language == name)
  ⟨name, own.length, sumTallies (own.map CountedFile.tally)⟩

/-- The counts of all languages of the files, in order. -/
def languageCounts (files : List CountedFile) : List LanguageCount :=
  ((files.map (·.language)).eraseDups.map fun name => LanguageCount.ofFiles name files).mergeSort
    LanguageCount.le

/-- The files of a list of outcomes that were read as text. -/
def textFiles (outcomes : List (Source × FileOutcome Reading)) : List CountedFile :=
  outcomes.filterMap fun (source, outcome) => match outcome with
    | .text reading => some ⟨source.language.name, reading⟩
    | _ => none

/-- The counts that the outcomes of all files make, with `digest` telling files of the same
content. -/
def Census.ofOutcomes {δ : Type} [DecidableEq δ] (digest : List UInt8 → δ)
    (outcomes : List (Source × FileOutcome Reading)) : Census :=
  let texts := textFiles outcomes
  let counted := firsts (fun file => digest file.reading.content) texts
  let languages := languageCounts counted
  { languages
    totals := sumTallies (languages.map (·.tally))
    totalFiles := outcomes.length
    uniqueFiles := counted.length
    duplicateFiles := (texts.length - counted.length : Nat)
    binaryFiles := (outcomes.countP fun (_, outcome) => match outcome with
      | .binary => true
      | _ => false : Nat)
    errors := outcomes.filterMap fun (_, outcome) => match outcome with
      | .failed error => some error
      | _ => none }

namespace Tally

theorem eq_of_counts {s t : Tally} (hblank : s.blank = t.blank) (hcomment : s.comment = t.comment)
    (hcode : s.code = t.code) : s = t := by
  cases s
  cases t
  simp_all

theorem add_comm (s t : Tally) : s + t = t + s := by
  apply eq_of_counts <;> simp [Int.add_comm]

theorem add_assoc (s t u : Tally) : s + t + u = s + (t + u) := by
  apply eq_of_counts <;> simp [Int.add_assoc]

theorem add_zero (t : Tally) : t + 0 = t := by
  apply eq_of_counts <;> simp

end Tally

theorem sumTallies_concat (tallies : List Tally) (t : Tally) :
    sumTallies (tallies ++ [t]) = sumTallies tallies + t := by
  induction tallies with
  | nil => exact (Tally.add_zero t).trans ((Tally.add_zero t).symm.trans (Tally.add_comm t 0))
  | cons first tallies ih =>
    rw [List.cons_append, sumTallies, List.foldr_cons]
    exact (congrArg (first + ·) ih).trans (Tally.add_assoc first (sumTallies tallies) t).symm

theorem sumTallies_eq_of_perm {tallies tallies' : List Tally} (h : tallies.Perm tallies') :
    sumTallies tallies = sumTallies tallies' := by
  refine h.foldr_eq' (fun s _ t _ sum => ?_) 0
  rw [← Tally.add_assoc, ← Tally.add_assoc, Tally.add_comm s t]

section Languages

variable (name : String) (files : List CountedFile) (file : CountedFile)

/-- The counts of all languages of the files, the language that is met first coming first. -/
def countsByFirst : List LanguageCount :=
  (files.map (·.language)).eraseDups.map fun name => LanguageCount.ofFiles name files

theorem ofFiles_concat : LanguageCount.ofFiles name (files ++ [file]) =
    if file.language = name then
      ⟨name, (LanguageCount.ofFiles name files).files + 1,
        (LanguageCount.ofFiles name files).tally + file.tally⟩
    else LanguageCount.ofFiles name files := by
  by_cases h : file.language = name
  · simp [LanguageCount.ofFiles, h, List.filter_append, sumTallies_concat]
  · simp [LanguageCount.ofFiles, h, List.filter_append]

theorem addFile_map_ofFiles {names : List String} (hnames : names.Nodup) :
    addFile file.language file.tally (names.map fun name => LanguageCount.ofFiles name files) =
      (names.map fun name => LanguageCount.ofFiles name (files ++ [file])) ++
        if file.language ∈ names then [] else [⟨file.language, 1, file.tally⟩] := by
  induction names with
  | nil => simp [addFile]
  | cons first names ih =>
    obtain ⟨hfirst, hrest⟩ := List.nodup_cons.mp hnames
    have hname : (LanguageCount.ofFiles first files).name = first := rfl
    rw [List.map_cons, addFile, hname]
    by_cases h : first = file.language
    · have hothers : ∀ name ∈ names, LanguageCount.ofFiles name (files ++ [file]) =
          LanguageCount.ofFiles name files := by
        intro name hmem
        rw [ofFiles_concat, if_neg]
        rintro rfl
        exact hfirst (h ▸ hmem)
      rw [if_pos h, List.map_cons, ofFiles_concat, if_pos h.symm, if_pos (by simp [h]),
        List.map_congr_left hothers, h]
      simp
    · rw [if_neg h, ih hrest, List.map_cons, ofFiles_concat first, if_neg (Ne.symm h)]
      simp [Ne.symm h]

theorem countsByFirst_concat : countsByFirst (files ++ [file]) =
    addFile file.language file.tally (countsByFirst files) := by
  have hnodup : (files.map (·.language)).eraseDups.Nodup := Sequence.nodup_eraseDups _
  rw [countsByFirst, countsByFirst, addFile_map_ofFiles _ _ hnodup, List.map_append,
    List.map_singleton, Sequence.eraseDups_concat]
  by_cases h : file.language ∈ files.map (·.language)
  · simp [h, List.mem_eraseDups]
  · have hnone : files.filter (fun other => other.language == file.language) = [] := by
      rw [List.filter_eq_nil_iff]
      intro other hother heq
      exact h (List.mem_map.mpr ⟨other, hother, eq_of_beq heq⟩)
    have hown : LanguageCount.ofFiles file.language (files ++ [file]) =
        ⟨file.language, 1, file.tally⟩ := by
      simp [LanguageCount.ofFiles, List.filter_append, hnone, sumTallies, Tally.add_zero]
    simp [h, List.mem_eraseDups, hown]

theorem foldl_addFile : (files.foldl (fun counts file =>
    addFile file.language file.tally counts) []) = countsByFirst files := by
  induction files using List.reverseRecOn with
  | nil => rfl
  | append_singleton files file ih =>
    rw [List.foldl_concat, ih, countsByFirst_concat]

end Languages

section Pass

variable {δ : Type} [DecidableEq δ] {digest : List UInt8 → δ}

theorem length_firstsFrom_le {α : Type} (key : α → δ) (seen : List δ) (items : List α) :
    (firstsFrom key seen items).length ≤ items.length := by
  induction items generalizing seen with
  | nil => simp [firstsFrom]
  | cons a items ih =>
    rw [firstsFrom]
    split_ifs
    · exact Nat.le_succ_of_le (ih seen)
    · simpa using ih (key a :: seen)

variable (digest) in
def Counting.after (counting : Counting δ) (outcomes : List (Source × FileOutcome Reading)) :
    Counting δ :=
  let texts := textFiles outcomes
  let counted := firstsFrom (fun file => digest file.reading.content) counting.seen texts
  { languages := counted.foldl (fun counts file => addFile file.language file.tally counts)
      counting.languages
    seen := (counted.map fun file => digest file.reading.content).reverse ++ counting.seen
    unique := counting.unique + counted.length
    duplicates := counting.duplicates + (texts.length - counted.length : Nat)
    binary := counting.binary + (outcomes.countP fun (_, outcome) => match outcome with
      | .binary => true
      | _ => false : Nat)
    errors := counting.errors ++ outcomes.filterMap fun (_, outcome) => match outcome with
      | .failed error => some error
      | _ => none }

theorem after_cons (counting : Counting δ) (source : Source) (outcome : FileOutcome Reading)
    (outcomes : List (Source × FileOutcome Reading)) :
    counting.after digest ((source, outcome) :: outcomes) =
      (counting.add digest source outcome).after digest outcomes := by
  cases outcome with
  | binary => simp [Counting.after, Counting.add, textFiles, Int.add_assoc, Int.add_comm]
  | failed error => simp [Counting.after, Counting.add, textFiles]
  | text reading =>
    have htexts : textFiles ((source, .text reading) :: outcomes) =
        ⟨source.language.name, reading⟩ :: textFiles outcomes := rfl
    by_cases hseen : digest reading.content ∈ counting.seen
    · have hle := length_firstsFrom_le (fun file : CountedFile => digest file.reading.content)
        counting.seen (textFiles outcomes)
      simp [Counting.after, Counting.add, htexts, firstsFrom, hseen, Nat.sub_add_comm hle,
        Int.add_assoc, Int.add_comm]
    · simp [Counting.after, Counting.add, htexts, firstsFrom, hseen, CountedFile.tally,
        Int.add_assoc, Int.add_comm]

theorem foldl_add (outcomes : List (Source × FileOutcome Reading)) (counting : Counting δ) :
    outcomes.foldl (fun counting file => counting.add digest file.1 file.2) counting =
      counting.after digest outcomes := by
  induction outcomes generalizing counting with
  | nil => simp [Counting.after, textFiles, firstsFrom]
  | cons file outcomes ih => rw [List.foldl_cons, ih, ← after_cons]

/-- The pass makes the census that the outcomes of all files make. -/
theorem census_foldl_add (outcomes : List (Source × FileOutcome Reading)) :
    (outcomes.foldl (fun counting file => Counting.add digest counting file.1 file.2) {}).census
      outcomes.length = Census.ofOutcomes digest outcomes := by
  rw [foldl_add]
  simp only [Counting.after, Counting.census, Census.ofOutcomes, foldl_addFile, languageCounts,
    ← firsts.eq_def, Int.zero_add, List.nil_append]
  congr 1
  exact sumTallies_eq_of_perm (List.Perm.map _ (List.mergeSort_perm _ _).symm)

end Pass

end SourceCensus
