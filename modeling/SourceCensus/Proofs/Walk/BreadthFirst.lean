import SourceCensus.Proofs.Pieces
import SourceCensus.Proofs.Walk.Queue

/-! # What a walk finds: the files that its policy admits, in order, or an entry that stops it -/

namespace SourceCensus.Walk

variable {store : Store} {root names : List String} {policy : Policy}

/-- The first entry in the order of a walk that cannot be looked up. -/
structure FirstStop (store : Store) (root : List String) (policy : Policy) (names : List String) :
    Prop where
  met : Met store root policy names
  tooLong : store.fullStatus (root ++ names) = .error .nameTooLong
  first : ∀ other, Met store root policy other →
    store.fullStatus (root ++ other) = .error .nameTooLong → other ≠ names →
      ComesBefore names other

section Stops

theorem exists_find?_of_met (htree : store.IsTree) (h : Met store root policy names)
    (hlong : store.fullStatus (root ++ names) = .error .nameTooLong) :
    ∃ first, (visited store root policy).find? (stopsWalk store root) = some first := by
  rw [← Option.isSome_iff_exists, List.find?_isSome]
  rcases h.mem_visited_or htree with hmem | ⟨front, hmem, -, hfront⟩
  · exact ⟨names, hmem, stopsWalk_iff.mpr hlong⟩
  · exact ⟨front, hmem, stopsWalk_iff.mpr hfront⟩

theorem firstStop_of_find? (htree : store.IsTree)
    (h : (visited store root policy).find? (stopsWalk store root) = some names) :
    FirstStop store root policy names := by
  obtain ⟨hstops, before, after, hsplit, hgo⟩ := List.find?_eq_some_iff_append.mp h
  have hmem : names ∈ visited store root policy := List.mem_of_find?_eq_some h
  have hsorted : (before ++ names :: after).Pairwise ComesBefore := hsplit ▸ pairwise_visited
  have hbehind : ∀ other ∈ visited store root policy,
      store.fullStatus (root ++ other) = .error .nameTooLong →
        other = names ∨ ComesBefore names other := by
    intro other hother hlong
    rw [hsplit] at hother
    rcases List.mem_append.mp hother with hother | hother
    · have := hgo other hother
      simp [stopsWalk_iff.mpr hlong] at this
    · refine (List.mem_cons.mp hother).imp_right fun hother => ?_
      exact List.rel_of_pairwise_cons (List.pairwise_append.mp hsorted).2.1 hother
  refine ⟨met_of_mem_visits hmem, stopsWalk_iff.mp hstops, fun other hmet hlong hne => ?_⟩
  rcases hmet.mem_visited_or htree with hother | ⟨front, hfront, hshort, hstatus⟩
  · exact (hbehind other hother hlong).resolve_left hne
  · rcases hbehind front hfront hstatus with rfl | hlt | ⟨hlength, -⟩
    · exact .inl hshort
    · exact .inl (hlt.trans hshort)
    · exact .inl (hlength.trans_lt hshort)

end Stops

section Exactness

/-- What a walk comes to and keeps is admitted. -/
theorem admitted_of_met (htree : store.IsTree) {language : Language}
    (h : Met store root policy names)
    (hfate : fate store root policy names = .ok (.kept language)) :
    Admitted store root policy names := by
  obtain ⟨⟨content, hstatus⟩, hleaves, -⟩ := fate_eq_kept.mp hfate
  obtain ⟨hignored, hexcluded, htest⟩ := leavesFile_eq_false.mp hleaves
  obtain ⟨entry, hentry⟩ := Option.ne_none_iff_exists'.mp h.isEntry
  have hcomponents := htree.components hentry
  have hfile : store.isFile (root ++ names) = true := by
    simp [Store.isFile, (Store.fullStatus_eq_ok.mp hstatus).2]
  exact ⟨fun part hpart => (hcomponents part (List.mem_append_right _ hpart)).1, hfile, h.way,
    hignored, hexcluded, htest⟩

theorem exists_of_isFile (h : store.isFile names = true) :
    ∃ content, store.status names = .ok (.file content) := by
  unfold Store.isFile at h
  split at h
  · exact ⟨_, ‹_›⟩
  · cases h

theorem Admitted.met (htree : store.IsTree) (hroot : store.entry? root = some .directory)
    (h : Admitted store root policy names) : Met store root policy names := by
  have hne : names ≠ [] := by
    rintro rfl
    obtain ⟨content, hstatus⟩ := exists_of_isFile h.isFile
    rw [List.append_nil, htree.status_eq hroot (by simp [Store.isLink, hroot])] at hstatus
    cases hstatus
  obtain ⟨found, hfound⟩ := htree.follow_of_isFile hroot h.isFile
  obtain ⟨-, hlast⟩ := Store.directories_of_follow h.leadsDown
    (fun dir hdir hne hne' => (h.way dir hdir hne hne').notLink) hfound
  exact ⟨hne, hlast hne, h.way⟩

theorem Admitted.fate_eq_kept {language : Language} (h : Admitted store root policy names)
    (hlong : store.fullStatus (root ++ names) ≠ .error .nameTooLong)
    (hlanguage : languageOf? store (root ++ names) = some language) :
    fate store root policy names = .ok (.kept language) := by
  obtain ⟨content, hstatus⟩ := exists_of_isFile h.isFile
  have hfits : store.isTooLong (root ++ names) = false :=
    Bool.eq_false_iff.mpr fun hpath => hlong (Store.fullStatus_of_isTooLong hpath)
  exact Walk.fate_eq_kept.mpr ⟨⟨content, Store.fullStatus_eq_ok.mpr ⟨hfits, hstatus⟩⟩,
    leavesFile_eq_false.mpr ⟨h.notIgnored, h.notExcluded, h.notTest⟩, hlanguage⟩

theorem mem_keptNames_visited (htree : store.IsTree) (hroot : store.entry? root = some .directory)
    (hgoes : (visited store root policy).find? (stopsWalk store root) = none) {language : Language} :
    (names, language) ∈ keptNames store root policy (visited store root policy) ↔
      Admitted store root policy names ∧ languageOf? store (root ++ names) = some language := by
  rw [mem_keptNames]
  constructor
  · rintro ⟨hvisited, hfate⟩
    exact ⟨admitted_of_met htree (met_of_mem_visits hvisited) hfate, (fate_eq_kept.mp hfate).2.2⟩
  · rintro ⟨hadmitted, hlanguage⟩
    have hvisited : names ∈ visited store root policy := by
      refine ((hadmitted.met htree hroot).mem_visited_or htree).resolve_right ?_
      rintro ⟨front, hmem, -, hstatus⟩
      exact List.find?_eq_none.mp hgoes front hmem (stopsWalk_iff.mpr hstatus)
    have hlong : store.fullStatus (root ++ names) ≠ .error .nameTooLong := fun hstatus =>
      List.find?_eq_none.mp hgoes names hvisited (stopsWalk_iff.mpr hstatus)
    exact ⟨hvisited, hadmitted.fate_eq_kept hlong hlanguage⟩

/-- The walk of a directory of a tree, under any policy.  The loop over its queue ends.  If all that
it may come to can be looked up, it finds the files that the policy admits and that have a language,
each with that language, those with fewer components first and those with equally many in the order
of their components, so that none comes twice.  Otherwise it ends in a fault, at the first entry in
this order that cannot be looked up. -/
theorem walk_finds_admitted_or_stops (htree : store.IsTree)
    (hroot : store.entry? root = some .directory) (hlong : store.isTooLong root = false)
    (policy : Policy) :
    (∃ ended, QueueEnds store root policy { queue := [[]] } ended ∧
      (walk store root policy).outcome = Progress.sources <$> ended) ∧
    (((∀ names, Met store root policy names →
        store.fullStatus (root ++ names) ≠ .error .nameTooLong) ∧
      ∃ found : List (List String × Language),
        (walk store root policy).outcome =
          .ok (found.map fun (names, language) => ⟨root ++ names, relativeText names, language⟩) ∧
        found.Pairwise (fun a b => ComesBefore a.1 b.1) ∧
        ∀ names language, (names, language) ∈ found ↔ Admitted store root policy names ∧
          languageOf? store (root ++ names) = some language) ∨
    ∃ names, FirstStop store root policy names ∧
      (walk store root policy).outcome = .error ⟨.nameTooLong, store.pathText (root ++ names)⟩) := by
  refine ⟨⟨_, queueEnds htree hroot hlong, outcome_walk_eq_map⟩, ?_⟩
  have houtcome := outcome_walk htree hroot hlong policy
  cases hstop : (visited store root policy).find? (stopsWalk store root) with
  | none =>
    rw [hstop] at houtcome
    refine .inl ⟨fun names hmet hstatus => ?_, _, houtcome, pairwise_keptNames pairwise_visited,
      fun names language => mem_keptNames_visited htree hroot hstop⟩
    obtain ⟨first, hfirst⟩ := exists_find?_of_met htree hmet hstatus
    simp [hstop] at hfirst
  | some names =>
    rw [hstop] at houtcome
    exact .inr ⟨names, firstStop_of_find? htree hstop, houtcome⟩

/-- A store with a file, a directory that holds a file and a link to the first file, and a link to
the directory. -/
def linkedStore : Store :=
  { base := "", current := []
    entries := [(["b.py"], .file []), (["a"], .directory), (["a", "c.py"], .file []),
      (["a", "d.c"], .link "../b.py"), (["e"], .link "a")] }

/-- A policy that leaves out tests and ignores one file. -/
def onePathIgnored : Policy :=
  { excludeTests := true, exclusion := {}, ignored := fun path _ => path == "a/c.py" }

theorem linkedStore_isTree : linkedStore.IsTree := by
  decide

theorem linkedStore_isFile : linkedStore.isFile ["a", "d.c"] = true := by
  have hdirectory : linkedStore.entry? ["a"] = some .directory := rfl
  have hlink : linkedStore.entry? ["a", "d.c"] = some (.link "../b.py") := rfl
  have hfile : linkedStore.entry? ["b.py"] = some (.file []) := rfl
  have htarget : targetNames "../b.py" = ["..", "b.py"] ∧ isAbsolute "../b.py" = false := ⟨rfl, rfl⟩
  have hfollow : linkedStore.follow false Store.linkLimit [] ["a", "d.c"] =
      .ok (.entry ["b.py"]) := by
    simp [Store.follow, Store.linkLimit, staysPut, Store.nameLimit, hdirectory, hlink, hfile, htarget]
    decide
  simp only [Store.isFile, Store.status, Store.locate, hfollow]
  rfl

theorem linkedStore_admits : Admitted linkedStore [] onePathIgnored ["a", "d.c"] := by
  constructor
  · simp [LeadsDown, staysPut]
  · exact linkedStore_isFile
  · intro dir hdir hne hproper
    obtain rfl : dir = ["a"] := by
      simpa [hne, hproper] using (List.mem_inits dir _).mpr hdir
    constructor <;> decide
  · decide
  · decide
  · decide

theorem linkedStore_language :
    ∃ language, language.name = "C" ∧ languageOf? linkedStore ["a", "d.c"] = some language := by
  have hnamed : (Language.ofFileName? "d.c").map (·.name) = some "C" := by decide
  obtain ⟨language, hlanguage, hname⟩ := Option.map_eq_some_iff.mp hnamed
  exact ⟨language, hname, Option.or_eq_some_iff.mpr (.inl hlanguage)⟩

theorem linkedStore_linkedDirectory : linkedStore.status ["e"] = .ok .directory := by
  have hlink : linkedStore.entry? ["e"] = some (.link "a") := rfl
  have hdirectory : linkedStore.entry? ["a"] = some .directory := rfl
  have htarget : targetNames "a" = ["a"] ∧ isAbsolute "a" = false := ⟨rfl, rfl⟩
  have hfollow : linkedStore.follow false Store.linkLimit [] ["e"] = .ok (.entry ["a"]) := by
    simp [Store.follow, Store.linkLimit, staysPut, Store.nameLimit, hdirectory, hlink, htarget]
    decide
  simp only [Store.status, Store.locate, hfollow]
  rfl

theorem linkedStore_looks_up (hne : names ≠ []) (h : linkedStore.entry? names ≠ none) :
    linkedStore.fullStatus names ≠ .error .nameTooLong := by
  have hcan {names : List String} (entry : Entry) (hshort : linkedStore.isTooLong names = false)
      (hstatus : linkedStore.status names = .ok entry) :
      linkedStore.fullStatus names ≠ .error .nameTooLong := by
    simp [Store.fullStatus_eq_ok.mpr ⟨hshort, hstatus⟩]
  obtain ⟨entry, hentry⟩ := Option.ne_none_iff_exists'.mp h
  have hmem := Store.mem_entries_of_eq_some hne hentry
  simp only [linkedStore, List.mem_cons, Prod.mk.injEq, List.not_mem_nil, or_false] at hmem
  rcases hmem with ⟨rfl, -⟩ | ⟨rfl, -⟩ | ⟨rfl, -⟩ | ⟨rfl, -⟩ | ⟨rfl, -⟩
  · exact hcan (.file []) (by decide) (linkedStore_isTree.status_eq rfl rfl)
  · exact hcan .directory (by decide) (linkedStore_isTree.status_eq rfl rfl)
  · exact hcan (.file []) (by decide) (linkedStore_isTree.status_eq rfl rfl)
  · obtain ⟨content, hstatus⟩ := exists_of_isFile linkedStore_isFile
    exact hcan _ (by decide) hstatus
  · exact hcan _ (by decide) linkedStore_linkedDirectory

/-- The link to a file is found under the link's own name; what the policy ignores and what stands
below the link to a directory is not found. -/
theorem linkedStore_walk_finds :
    linkedStore.IsTree ∧ linkedStore.entry? [] = some .directory ∧
    linkedStore.isTooLong [] = false ∧
    ∃ found : List (List String × Language),
      (walk linkedStore [] onePathIgnored).outcome =
        .ok (found.map fun (names, language) => ⟨names, relativeText names, language⟩) ∧
      found.Pairwise (fun a b => ComesBefore a.1 b.1) ∧
      (∃ language, language.name = "C" ∧ (["a", "d.c"], language) ∈ found) ∧
      (∀ language, (["a", "c.py"], language) ∉ found) ∧
      ∀ language, (["e", "c.py"], language) ∉ found := by
  refine ⟨linkedStore_isTree, rfl, by decide, ?_⟩
  obtain ⟨-, ⟨-, found, hwalk, hsorted, hfound⟩ | ⟨names, hstop, -⟩⟩ :=
    walk_finds_admitted_or_stops linkedStore_isTree (show linkedStore.entry? [] = _ from rfl)
      (by decide) onePathIgnored
  · refine ⟨found, hwalk, hsorted, ?_, fun language hmem => ?_, fun language hmem => ?_⟩
    · obtain ⟨language, hname, hlanguage⟩ := linkedStore_language
      exact ⟨language, hname, (hfound _ _).mpr ⟨linkedStore_admits, hlanguage⟩⟩
    · have hignored := ((hfound _ _).mp hmem).1.notIgnored
      revert hignored
      decide
    · have hway := ((hfound _ _).mp hmem).1.way ["e"] (by simp) (by simp) (by simp)
      have hlink := hway.notLink
      revert hlink
      decide
  · exact absurd hstop.tooLong (linkedStore_looks_up hstop.met.below hstop.met.isEntry)

def longName : String := String.ofList (List.replicate 300 'a')

def longLinkStore : Store :=
  { base := "", current := [], entries := [(["l"], .link longName), (["x.py"], .file [])] }

def nothingLeftOut : Policy :=
  { excludeTests := false, exclusion := {}, ignored := fun _ _ => false }

theorem longLinkStore_isTree : longLinkStore.IsTree := by
  decide

theorem longLinkStore_link : longLinkStore.fullStatus ["l"] = .error .nameTooLong := by
  have hshort : longLinkStore.isTooLong ["l"] = false := by decide
  have hlink : longLinkStore.entry? ["l"] = some (.link longName) := rfl
  have hletters : longName.toList = List.replicate 300 'a' := String.toList_ofList
  have htarget : targetNames longName = [longName] ∧ isAbsolute longName = false := by
    constructor
    · rw [targetNames, hletters, Text.splitOn_of_not_mem fun hslash =>
        absurd (List.eq_of_mem_replicate hslash) (by decide)]
      rfl
    · rw [isAbsolute, hletters]
      rfl
  have hleads : staysPut longName = false ∧ longName ≠ ".." := by decide +kernel
  have hlong : Store.nameLimit < longName.utf8ByteSize := by decide +kernel
  have hfollow : longLinkStore.follow false Store.linkLimit [] ["l"] = .error .nameTooLong := by
    have hname : staysPut "l" = false ∧ ¬ Store.nameLimit < "l".utf8ByteSize := by decide
    simp [Store.follow, Store.linkLimit, hname, hlink, htarget, hleads, hlong]
  rw [Store.fullStatus, hshort, Store.status, Store.locate, hfollow]
  rfl

/-- A link that cannot be looked up stops the walk, so that the file beside it is not found. -/
theorem not_every_walk_returns :
    ¬ ∀ (store : Store) (root : List String) (policy : Policy), store.IsTree →
      store.entry? root = some .directory → store.isTooLong root = false →
        ∃ sources, (walk store root policy).outcome = .ok sources := by
  intro h
  obtain ⟨sources, hsources⟩ := h longLinkStore [] nothingLeftOut longLinkStore_isTree rfl
    (by decide)
  have hmet : Met longLinkStore [] nothingLeftOut ["l"] := by
    refine ⟨by simp, by simp [longLinkStore, Store.entry?], fun dir hdir hne hproper => ?_⟩
    rw [← List.mem_inits] at hdir
    simp [hne, hproper] at hdir
  obtain ⟨first, hfirst⟩ := exists_find?_of_met longLinkStore_isTree hmet longLinkStore_link
  rw [outcome_walk longLinkStore_isTree rfl (by decide), hfirst] at hsources
  cases hsources

end Exactness

end SourceCensus.Walk
