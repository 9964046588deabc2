import SourceCensus.Proofs.Source.Outcomes
import SourceCensus.Proofs.Store.RealPath
import SourceCensus.Proofs.Walk.BreadthFirst

/-! # What a walk can end in -/

namespace SourceCensus

namespace Language

variable {language : Language} {name : String}

theorem mem_all_of_ofFileName? (h : ofFileName? name = some language) : language ∈ all := by
  rcases Option.or_eq_some_iff.mp h with h | ⟨-, h⟩
  · exact List.mem_of_find?_eq_some h
  · obtain ⟨extension, -, h⟩ := Option.bind_eq_some_iff.mp h
    exact List.mem_of_find?_eq_some h

theorem mem_all_of_ofInterpreterLine? {line : List Char} (h : ofInterpreterLine? line = some language) :
    language ∈ all := by
  obtain ⟨program, -, h⟩ := Option.bind_eq_some_iff.mp h
  exact List.mem_of_find?_eq_some h

end Language

theorem mem_all_of_languageOf? {store : Store} {names : List String} {language : Language}
    (h : languageOf? store names = some language) : language ∈ Language.all := by
  rcases Option.or_eq_some_iff.mp h with h | ⟨-, h⟩
  · exact Language.mem_all_of_ofFileName? h
  · unfold interpreterLanguage? at h
    split at h
    · exact Language.mem_all_of_ofInterpreterLine? h
    · cases h

namespace Walk

variable {ε : Type} {store : Store} {root names : List String} {policy : Policy} {source : Source}
  {sources : List Source}

structure IsKnown (source : Source) : Prop where
  addressable : source.IsAddressable
  language : source.language ∈ Language.all

theorem holdsNull_of_entry (hnull : store.IsNullFree) (h : store.entry? names ≠ none) :
    ∀ name ∈ names, Path.holdsNull name = false := by
  intro name hname
  obtain ⟨entry, hentry⟩ := Option.ne_none_iff_exists'.mp h
  exact hnull.names _ (Store.mem_entries_of_eq_some (List.ne_nil_of_mem hname) hentry) name hname

/-- A walk finds files that can be asked for. -/
theorem isKnown_of_walk (htree : store.IsTree) (hnull : store.IsNullFree)
    (hroot : store.entry? root = some .directory) (hlong : store.isTooLong root = false)
    (h : (walk store root policy).outcome = .ok sources) : ∀ source ∈ sources, IsKnown source := by
  intro source hsource
  rw [outcome_walk htree hroot hlong] at h
  cases hstop : (visited store root policy).find? (stopsWalk store root) with
  | some names => simp [hstop] at h
  | none =>
    rw [hstop] at h
    rw [← Except.ok.inj h] at hsource
    obtain ⟨⟨names, language⟩, hkept, rfl⟩ := List.mem_map.mp hsource
    obtain ⟨hvisited, hfate⟩ := mem_keptNames.mp hkept
    exact ⟨holdsNull_of_entry hnull (met_of_mem_visits hvisited).isEntry,
      mem_all_of_languageOf? (fate_eq_kept.mp hfate).2.2⟩

/-- How a walk from a root ends. -/
inductive Ends (store : Store) (root : List String) : Except WalkFault (List Source) → Prop where
  | found {sources : List Source} (h : ∀ source ∈ sources, IsKnown source) :
    Ends store root (.ok sources)
  | rootTooLong (h : store.fullStatus root = .error .nameTooLong) :
    Ends store root (.error (.access ⟨.nameTooLong, store.pathText root⟩))
  | rules {fault : RulesFault} (h : (loadRules store root).outcome = .error fault) :
    Ends store root (.error (.rules fault))
  | entryTooLong {names : List String} (hentry : store.entry? (root ++ names) ≠ none)
      (h : store.fullStatus (root ++ names) = .error .nameTooLong) :
    Ends store root (.error (.access ⟨.nameTooLong, store.pathText (root ++ names)⟩))

theorem ends_walk (htree : store.IsTree) (hnull : store.IsNullFree)
    (hroot : store.entry? root = some .directory) (hlong : store.isTooLong root = false)
    (policy : Policy) : Ends store root ((walk store root policy).mapFault .access).outcome := by
  have houtcome := outcome_walk htree hroot hlong policy
  cases hstop : (visited store root policy).find? (stopsWalk store root) with
  | none =>
    rw [hstop] at houtcome
    simp only [Run.mapFault, houtcome, Except.mapError]
    exact .found (isKnown_of_walk htree hnull hroot hlong houtcome)
  | some names =>
    rw [hstop] at houtcome
    simp only [Run.mapFault, houtcome, Except.mapError]
    have hmet := (firstStop_of_find? htree hstop).met
    exact .entryTooLong hmet.isEntry (stopsWalk_iff.mp (List.find?_some hstop))

theorem ends_sourcesInside (htree : store.IsTree) (hnull : store.IsNullFree)
    (hroot : store.entry? root ≠ none) (hlink : store.isLink root = false) (excludeTests : Bool)
    (exclusion : Exclusion) :
    Ends store root (sourcesInside store root excludeTests exclusion).outcome := by
  obtain ⟨entry, hentry⟩ := Option.ne_none_iff_exists'.mp hroot
  unfold sourcesInside
  rcases htree.fullStatus_eq hentry hlink with hstatus | hstatus
  · rw [hstatus]
    exact .rootTooLong hstatus
  · rw [hstatus]
    cases entry with
    | file content =>
      refine .found fun source hsource => ?_
      obtain ⟨language, hlanguage, rfl⟩ := List.mem_map.mp hsource
      exact ⟨holdsNull_of_entry hnull hroot, mem_all_of_languageOf? (Option.mem_toList.mp hlanguage)⟩
    | link target => simp [Store.isLink, hentry] at hlink
    | directory =>
      simp only [Run.outcome_bind]
      cases hrules : (loadRules store root).outcome with
      | error fault =>
        have hfault : ((loadRules store root).mapFault WalkFault.rules).outcome =
            .error (.rules fault) := by rw [Run.mapFault, hrules]; rfl
        rw [hfault]
        exact .rules hrules
      | ok rules =>
        have hloaded : ((loadRules store root).mapFault WalkFault.rules).outcome = .ok rules := by
          rw [Run.mapFault, hrules]; rfl
        rw [hloaded, ok_bind]
        exact ends_walk htree hnull hentry (Store.fullStatus_eq_ok.mp hstatus).1 _

/-- A walk from a path that leads somewhere. -/
theorem ends_sourcesAt (htree : store.IsTree) (hnull : store.IsNullFree)
    (hnames : ∀ name ∈ names, Path.holdsNull name = false) (h : store.locate names = .ok root)
    (excludeTests : Bool) (exclusion : Exclusion) :
    Ends store root (sourcesAt store names excludeTests exclusion).outcome := by
  obtain ⟨hreal, hroot, hlink⟩ := Store.realPath_of_locate htree hnull hnames h
  rw [sourcesAt, Run.outcome_bind, hreal]
  exact ends_sourcesInside htree hnull hroot hlink excludeTests exclusion

end Walk

end SourceCensus
