import SourceCensus.Proofs.Source.CensusBalance

/-! # The order of the sources -/

namespace SourceCensus

open FileOutcome Sequence

section Firsts

variable {α δ : Type} [DecidableEq δ] {key : α → δ} {items items' : List α}

/-- As many items are taken as there are different keys. -/
theorem length_firsts (items : List α) :
    (firsts key items).length = (items.map key).eraseDups.length := by
  rw [← map_firsts, List.length_map]

theorem length_firsts_eq_of_perm (h : items.Perm items') :
    (firsts key items).length = (firsts key items').length := by
  rw [length_firsts, length_firsts]
  exact length_eraseDups_eq fun k => (h.map key).mem_iff

theorem nodup_firsts (items : List α) : (firsts key items).Nodup := by
  apply List.Nodup.of_map key
  rw [map_firsts]
  exact nodup_eraseDups _

/-- Where items of one key are equal, the one that is taken stands for all of them. -/
theorem mem_firsts_iff (hkey : ∀ a ∈ items, ∀ b ∈ items, key a = key b → a = b) {a : α} :
    a ∈ firsts key items ↔ a ∈ items := by
  have htaken : ∀ b ∈ firsts key items, b ∈ items := fun b hb =>
    (firsts_append_repeated key items).subset (List.mem_append_left _ hb)
  refine ⟨htaken a, fun ha => ?_⟩
  have hmet : key a ∈ (firsts key items).map key := by
    rw [map_firsts]
    exact List.mem_eraseDups.mpr (List.mem_map_of_mem ha)
  obtain ⟨b, hb, hba⟩ := List.mem_map.mp hmet
  exact hkey b (htaken b hb) a ha hba ▸ hb

theorem perm_firsts (h : items.Perm items')
    (hkey : ∀ a ∈ items, ∀ b ∈ items, key a = key b → a = b) :
    (firsts key items).Perm (firsts key items') := by
  have hkey' : ∀ a ∈ items', ∀ b ∈ items', key a = key b → a = b := fun a ha b hb =>
    hkey a (h.mem_iff.mpr ha) b (h.mem_iff.mpr hb)
  refine (List.perm_ext_iff_of_nodup (nodup_firsts items) (nodup_firsts items')).mpr fun a => ?_
  rw [mem_firsts_iff hkey, mem_firsts_iff hkey', h.mem_iff]

end Firsts

section Languages

variable {files files' : List CountedFile}

theorem ofFiles_eq_of_perm (h : files.Perm files') (name : String) :
    LanguageCount.ofFiles name files = .ofFiles name files' := by
  have hown := h.filter (·.language == name)
  have htally : sumTallies ((files.filter (·.language == name)).map CountedFile.tally) =
      sumTallies ((files'.filter (·.language == name)).map CountedFile.tally) := by
    refine Tally.eq_of_number fun kind => ?_
    rw [number_sumTallies, number_sumTallies]
    exact total_eq_of_perm ((hown.map _).map _)
  simp only [LanguageCount.ofFiles, hown.length_eq, htally]

/-- The order of the files makes no difference to the languages, as no two of them have the same
place. -/
theorem languageCounts_eq_of_perm (h : files.Perm files') :
    languageCounts files = languageCounts files' := by
  have hnames : (files.map (·.language)).eraseDups.Perm (files'.map (·.language)).eraseDups :=
    perm_eraseDups fun name => (h.map _).mem_iff
  have hcounts : (languageCounts files).Perm (languageCounts files') := by
    refine (List.mergeSort_perm _ _).trans (.trans ?_ (List.mergeSort_perm _ _).symm)
    rw [funext (ofFiles_eq_of_perm h)]
    exact hnames.map _
  have hordered := List.pairwise_map.mp (strictly_ordered_languageCounts files)
  have hordered' := List.pairwise_map.mp (strictly_ordered_languageCounts files')
  exact hcounts.eq_of_pairwise (fun _ _ _ _ hab hba => absurd hab hba.asymm) hordered hordered'

end Languages

section Order

variable {δ : Type} {digest : List UInt8 → δ} {store : Store} {sources others : List Source}

variable (digest store sources) in
/-- Text files whose contents have the same digest have the same content and the same language. -/
def DigestTells : Prop :=
  ∀ source ∈ sources, ∀ other ∈ sources, ∀ reading reading',
    reading? store source = some reading → reading? store other = some reading' →
      digest reading.content = digest reading'.content →
        reading.content = reading'.content ∧ source.language = other.language

/-- What is read of a text file hangs on its content and its language. -/
theorem reading?_eq_ofText {source : Source} {reading : Reading}
    (h : reading? store source = some reading) :
    ∃ text, Text.Utf8.decode reading.content = .ok text ∧
      reading = .ofText source.language.lexis reading.content text := by
  have hread := outcome_readSource_of_reading? h
  rw [outcome_readSource, bind_eq_ok_iff] at hread
  obtain ⟨content, -, hread⟩ := hread
  unfold Reading.ofContent? at hread
  split at hread
  · cases hread
  · split at hread
    · rename_i text hdecode
      cases hread
      exact ⟨text, hdecode, rfl⟩
    · cases hread

theorem DigestTells.eq_of_digest_eq (h : DigestTells digest store sources) {file file' : CountedFile}
    (hfile : file ∈ countedFiles store sources) (hfile' : file' ∈ countedFiles store sources)
    (hdigest : digest file.reading.content = digest file'.reading.content) : file = file' := by
  obtain ⟨source, hsource, hfile⟩ := List.mem_filterMap.mp hfile
  obtain ⟨other, hother, hfile'⟩ := List.mem_filterMap.mp hfile'
  obtain ⟨reading, hreading, rfl⟩ := Option.map_eq_some_iff.mp hfile
  obtain ⟨reading', hreading', rfl⟩ := Option.map_eq_some_iff.mp hfile'
  obtain ⟨hcontent, hlanguage⟩ :=
    h source hsource other hother reading reading' hreading hreading' hdigest
  obtain ⟨text, hdecode, htext⟩ := reading?_eq_ofText hreading
  obtain ⟨text', hdecode', htext'⟩ := reading?_eq_ofText hreading'
  obtain rfl : text = text' := by
    rw [hcontent, hdecode'] at hdecode
    exact (Except.ok.inj hdecode).symm
  rw [htext, htext', hcontent, hlanguage]

theorem perm_countedFiles (h : sources.Perm others) :
    (countedFiles store sources).Perm (countedFiles store others) :=
  h.filterMap _

variable [DecidableEq δ]

theorem uniqueFiles_censusOf_eq_of_perm (h : sources.Perm others) :
    (censusOf digest store others).uniqueFiles = (censusOf digest store sources).uniqueFiles := by
  rw [uniqueFiles_censusOf, uniqueFiles_censusOf]
  exact congrArg Int.ofNat (length_firsts_eq_of_perm (perm_countedFiles h).symm)

theorem duplicateFiles_censusOf_eq_of_perm (h : sources.Perm others) :
    (censusOf digest store others).duplicateFiles =
      (censusOf digest store sources).duplicateFiles := by
  have htexts := uniqueFiles_add_duplicateFiles_censusOf digest store sources
  have htexts' := uniqueFiles_add_duplicateFiles_censusOf digest store others
  rw [uniqueFiles_censusOf_eq_of_perm h, ← (h.filterMap (reading? store)).length_eq] at htexts'
  omega

theorem languages_censusOf_eq_of_perm (h : sources.Perm others)
    (hdigest : DigestTells digest store sources) :
    (censusOf digest store others).languages = (censusOf digest store sources).languages := by
  have hunique : (uniqueFiles digest store sources).Perm (uniqueFiles digest store others) :=
    perm_firsts (perm_countedFiles h) fun _ hfile _ hfile' =>
      hdigest.eq_of_digest_eq hfile hfile'
  rw [languages_censusOf, languages_censusOf, languageCounts_eq_of_perm hunique.symm]

/-- The order of the sources makes no difference to how many files there are, are counted, are
skipped or are binary, and none but its own to the errors.  Where text files of one digest have the
same content and the same language, it makes none to the languages, in their order, and to the totals.
Nor does it to the fault where a path cannot be asked for. -/
theorem source_order_irrelevant (digest : List UInt8 → δ) (store : Store)
    (h : sources.Perm others) :
    ((∀ source ∈ sources, source.IsAddressable) →
      ∃ census census', (takeCensus digest store sources).outcome = .ok census ∧
        (takeCensus digest store others).outcome = .ok census' ∧
        census'.totalFiles = census.totalFiles ∧ census'.uniqueFiles = census.uniqueFiles ∧
        census'.duplicateFiles = census.duplicateFiles ∧
        census'.binaryFiles = census.binaryFiles ∧ census'.errors.Perm census.errors ∧
        (DigestTells digest store sources →
          census'.languages = census.languages ∧ census'.totals = census.totals)) ∧
    ((∃ source ∈ sources, ¬ source.IsAddressable) →
      (takeCensus digest store sources).outcome = .error .nullInPath ∧
      (takeCensus digest store others).outcome = .error .nullInPath) := by
  constructor
  · intro haddressable
    have haddressable' : ∀ source ∈ others, source.IsAddressable := fun source hsource =>
      haddressable source (h.mem_iff.mpr hsource)
    refine ⟨_, _, outcome_takeCensus haddressable, outcome_takeCensus haddressable', ?_,
      uniqueFiles_censusOf_eq_of_perm h, duplicateFiles_censusOf_eq_of_perm h, ?_, ?_,
      fun hdigest => ?_⟩
    · rw [totalFiles_censusOf, totalFiles_censusOf, h.length_eq]
    · rw [binaryFiles_censusOf_eq_countP, binaryFiles_censusOf_eq_countP, h.countP_eq]
    · rw [errors_censusOf, errors_censusOf]
      exact (h.filterMap _).symm
    · have hlanguages := languages_censusOf_eq_of_perm h hdigest
      refine ⟨hlanguages, ?_⟩
      rw [totals_censusOf, totals_censusOf, ← languages_censusOf, ← languages_censusOf, hlanguages]
  · rintro ⟨source, hsource, hnull⟩
    exact ⟨outcome_takeCensus_of_not_addressable ⟨source, hsource, hnull⟩,
      outcome_takeCensus_of_not_addressable ⟨source, h.mem_iff.mp hsource, hnull⟩⟩

def likeSources : List Source :=
  ["a", "b"].map plainSource

theorem likeSources_addressable : ∀ source ∈ likeSources, source.IsAddressable := by
  simp only [likeSources, plainSource, Source.IsAddressable, List.map_cons, List.map_nil,
    List.forall_mem_cons]
  decide

theorem digestTells_likeSources : DigestTells id twinStore likeSources := by
  intro source hsource other hother reading reading' _ _ hdigest
  have hplain : ∀ source ∈ likeSources, source.language = { name := "Plain" } := by
    simp [likeSources, plainSource]
  exact ⟨hdigest, (hplain source hsource).trans (hplain other hother).symm⟩

theorem countedFiles_likeSources : countedFiles twinStore likeSources =
    List.replicate 2 ⟨"Plain", ⟨[35, 10], [['#']], [.code]⟩⟩ := by
  obtain ⟨ha, hb⟩ := fullRead_twinStore
  simp only [countedFiles, likeSources, plainSource, List.map_cons, List.map_nil,
    List.filterMap_cons, List.filterMap_nil, reading?, outcome_readSource, contentOf, ha, hb]
  decide +kernel

/-- Whichever of the twins comes first, the language has one file of one code line. -/
theorem likeSources_reversed : likeSources.Perm likeSources.reverse ∧
    (∀ source ∈ likeSources, source.IsAddressable) ∧ DigestTells id twinStore likeSources ∧
    ∃ census census', (takeCensus id twinStore likeSources).outcome = .ok census ∧
      (takeCensus id twinStore likeSources.reverse).outcome = .ok census' ∧
      census'.uniqueFiles = census.uniqueFiles ∧ census'.duplicateFiles = census.duplicateFiles ∧
      census.languages = [⟨"Plain", 1, ⟨0, 0, 1⟩⟩] ∧ census'.languages = census.languages := by
  have hperm : likeSources.Perm likeSources.reverse := (List.reverse_perm _).symm
  obtain ⟨census, census', hcensus, hcensus', -, hunique, hduplicates, -, -, hsame⟩ :=
    (source_order_irrelevant id twinStore hperm).1 likeSources_addressable
  have hlanguages : census.languages = [⟨"Plain", 1, ⟨0, 0, 1⟩⟩] := by
    obtain rfl := Except.ok.inj ((outcome_takeCensus likeSources_addressable).symm.trans hcensus)
    rw [languages_censusOf, uniqueFiles, countedFiles_likeSources]
    exact List.mergeSort_singleton _
  exact ⟨hperm, likeSources_addressable, digestTells_likeSources, census, census', hcensus, hcensus',
    hunique, hduplicates, hlanguages, (hsame digestTells_likeSources).1⟩

end Order

end SourceCensus
