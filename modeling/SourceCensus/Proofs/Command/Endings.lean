import SourceCensus.Proofs.Command.SearchReport
import SourceCensus.Proofs.Source.Sizes
import SourceCensus.Proofs.Walk.FoundSources

/-! # How runs end -/

namespace SourceCensus.Command

open Report Duplication

variable {store : Store} {request : Request} {elapsed : Int} {α β : Type} {p : α → Prop}
  {q : β → Prop}

def Options.LeadsTo (options : Options) (store : Store) (root : List String) : Prop :=
  ∃ names, presentAt? store (Path.ofText options.path) = .ok (some names) ∧
    store.locate names = .ok root

structure Request.SavesTo (request : Request) (target : String) : Prop where
  task : request.task = .duplicates
  format : request.options.format = .json
  output : request.options.output = some target

/-- The lines on the error output for the source files that cannot be read. -/
def scanErrorLines (store : Store) (sources : List Source) : String :=
  errorLines (sources.filterMap (scanError? store))

inductive Complaint (store : Store) (request : Request) : String → Prop where
  | blockSize (htask : request.task = .duplicates) (h : request.options.minLines ≤ 0) :
    Complaint store request "min-lines must be > 0\n"
  | jobs (htask : request.task = .duplicates) (h : request.options.jobs ≤ 0) :
    Complaint store request "jobs must be > 0\n"
  | pathMissing (h : presentAt? store (Path.ofText request.options.path) = .ok none) :
    Complaint store request
      ("Path does not exist: " ++ (Path.ofText request.options.path).text ++ "\n")
  | rootTooLong {root : List String} (hroot : request.options.LeadsTo store root)
      (h : store.fullStatus root = .error .nameTooLong) :
    Complaint store request ("Failed to read .gitignore files: " ++
      AccessFault.message ⟨.nameTooLong, store.pathText root⟩ ++ "\n")
  | rulesUnreadable {root : List String} {fault : AccessFault}
      (hroot : request.options.LeadsTo store root)
      (h : (Walk.loadRules store root).outcome = .error (.unreadable fault)) :
    Complaint store request ("Failed to read .gitignore files: " ++ fault.message ++ "\n")
  | rulesUndecodable {root : List String} {fault : Text.Utf8.Fault}
      (hroot : request.options.LeadsTo store root)
      (h : (Walk.loadRules store root).outcome = .error (.undecodable fault)) :
    Complaint store request ("Failed to read .gitignore files: " ++ fault.message ++ "\n")
  | entryTooLong {root names : List String} (hroot : request.options.LeadsTo store root)
      (hentry : store.entry? (root ++ names) ≠ none)
      (h : store.fullStatus (root ++ names) = .error .nameTooLong) :
    Complaint store request ("Failed to read .gitignore files: " ++
      AccessFault.message ⟨.nameTooLong, store.pathText (root ++ names)⟩ ++ "\n")
  | outputRefused {sources : List Source} {target : String} {content : List UInt8}
      {fault : AccessFault} (hsources : (collectSources store request.options).outcome = .ok sources)
      (htarget : request.SavesTo target)
      (h : store.save (Path.ofText target) content = .error (.access fault)) :
    Complaint store request
      (scanErrorLines store sources ++ "Failed to write JSON output file: " ++ target ++ "\n")

inductive Unforeseen (elapsed : Int) (store : Store) (request : Request) : Fault → Prop where
  /-- A setting is given the word that makes operands of the words behind it. -/
  | withheld {setting : Setting} (need : Need) (h : setting ∈ request.options.withheld) :
    Unforeseen elapsed store request (.withheld need)
  /-- The path, or a name on its way, is too long to be looked up. -/
  | pathTooLong {path : Path} (hpath : path = Path.ofText request.options.path)
      (h : presentAt? store path = .error ⟨.nameTooLong, path.text⟩) :
    Unforeseen elapsed store request (.access ⟨.nameTooLong, path.text⟩)
  /-- A glob makes no sense. -/
  | glob {fault : Ignore.RuleFault} (h : request.options.exclusion = .error fault) :
    Unforeseen elapsed store request (.rule fault)
  /-- A line of an ignore file makes no sense. -/
  | ignoreLine {root : List String} {fault : Ignore.RuleFault}
      (hroot : request.options.LeadsTo store root)
      (h : (Walk.loadRules store root).outcome = .error (.unusable fault)) :
    Unforeseen elapsed store request (.rule fault)
  /-- A null character stands in the output path. -/
  | outputPath {target : String} {fault : PathFault} (htarget : request.SavesTo target)
      (h : (Path.ofText target).hasNull = true) : Unforeseen elapsed store request (.invalidPath fault)
  /-- Joiners meet in a path or in a code line of the detailed report. -/
  | joiners {sources : List Source} {fault : ReportFault} (htask : request.task = .duplicates)
      (hformat : request.options.format = .table) (hreport : request.options.report = true)
      (hsources : (collectSources store request.options).outcome = .ok sources)
      (h : ¬ IsUnpairedProject (scanOf store sources (! request.options.includeTests)).files) :
    Unforeseen elapsed store request (.report fault)
  /-- A number of the report has thousands of digits. -/
  | huge {sources : List Source} {fault : ReportFault}
      (hsources : (collectSources store request.options).outcome = .ok sources)
      (h : 2 ^ 100 ≤ projectSize store sources ∨ ¬ IsSmall elapsed) :
    Unforeseen elapsed store request (.report fault)

/-- How a step of a task ends: in a result that has a property, in a complaint, or unforeseen. -/
inductive Ends (elapsed : Int) (store : Store) (request : Request) (p : α → Prop) :
    Except Stop α → Prop where
  | result {a : α} (h : p a) : Ends elapsed store request p (.ok a)
  | complaint {text : String} (h : Complaint store request text) :
    Ends elapsed store request p (.error (.complaint text))
  | fault {fault : Fault} (h : Unforeseen elapsed store request fault) :
    Ends elapsed store request p (.error (.fault fault))

/-- What a run leaves that ends in a report. -/
inductive Reported (store : Store) (request : Request) : Outcome → Prop where
  | printed {sources : List Source} (output : String)
      (hsources : (collectSources store request.options).outcome = .ok sources) :
    Reported store request { output, errors := scanErrorLines store sources, store }
  | saved {sources : List Source} {target : String} {content : List UInt8} {changed : Store}
      (hsources : (collectSources store request.options).outcome = .ok sources)
      (htarget : request.SavesTo target)
      (h : store.save (Path.ofText target) content = .ok changed) :
    Reported store request { errors := scanErrorLines store sources, store := changed }

section Steps

theorem Ends.bind {run : Run Stop α} {next : α → Run Stop β}
    (h : Ends elapsed store request p run.outcome)
    (hnext : ∀ a, run.outcome = .ok a → p a → Ends elapsed store request q (next a).outcome) :
    Ends elapsed store request q (run >>= next).outcome := by
  rw [Run.outcome_bind]
  cases houtcome : run.outcome with
  | ok a =>
    rw [houtcome] at h
    cases h with
    | result h => exact hnext a houtcome h
  | error stop =>
    rw [houtcome] at h
    cases h with
    | complaint h => exact .complaint h
    | fault h => exact .fault h

theorem ends_demand (setting : Setting) (need : Need) :
    Ends elapsed store request (fun _ => True) (demand request.options setting need).outcome := by
  unfold demand
  split
  · rename_i h
    exact .fault (.withheld need (List.contains_iff_mem.mp h))
  · exact .result trivial

/-- A step of a report ends in a fault only where that is unforeseen. -/
theorem ends_reported {result : Except ReportFault α}
    (h : ∀ fault, result = .error fault → Unforeseen elapsed store request (.report fault)) :
    Ends elapsed store request (fun a => result = .ok a) (reported result).outcome := by
  cases result with
  | ok a => exact .result rfl
  | error fault => exact .fault (h fault rfl)

theorem ends_checkNumbers (htask : request.task = .duplicates) :
    Ends elapsed store request
      (fun _ => 0 < request.options.minLines ∧ 0 < request.options.jobs)
      (checkNumbers request.options).outcome := by
  unfold checkNumbers
  refine (ends_demand _ _).bind fun _ _ _ => ?_
  split
  · rename_i hsize
    exact .complaint (.blockSize htask hsize)
  · rename_i hsize
    refine (ends_demand _ _).bind fun _ _ _ => ?_
    split
    · rename_i hjobs
      exact .complaint (.jobs htask hjobs)
    · rename_i hjobs
      exact .result ⟨Int.not_le.mp hsize, Int.not_le.mp hjobs⟩

end Steps

section Collecting

variable {path : Path} {names root : List String} {options : Options}

theorem present_of_presentAt? (h : presentAt? store path = .ok (some names)) :
    path.hasNull = false ∧ store.namesOf? path = some names ∧ ∃ root, store.locate names = .ok root := by
  unfold presentAt? at h
  split at h
  · cases h
  · rename_i hnull
    split at h
    · cases h
    · split at h
      · cases h
      · rename_i found hnames
        split at h
        · rename_i entry hstatus
          cases h
          obtain ⟨root, hroot, -⟩ := bind_eq_ok_iff.mp hstatus
          exact ⟨by simpa using hnull, hnames, root, hroot⟩
        · cases h
        · cases h

theorem fault_of_presentAt? {fault : AccessFault} (h : presentAt? store path = .error fault) :
    fault = ⟨.nameTooLong, path.text⟩ := by
  unfold presentAt? at h
  split at h
  · cases h
  · split at h
    · exact (Except.error.inj h).symm
    · split at h
      · cases h
      · split at h
        · cases h
        · exact (Except.error.inj h).symm
        · cases h

theorem holdsNull_of_namesOf? (hnull : store.IsNullFree) (hpath : path.hasNull = false)
    (h : store.namesOf? path = some names) : ∀ name ∈ names, Path.holdsNull name = false := by
  have hparts : ∀ name ∈ path.parts, Path.holdsNull name = false := by
    simpa [Path.hasNull] using hpath
  have hinside (h : (if store.base = "" then some path.parts else none) = some names) :
      ∀ name ∈ names, Path.holdsNull name = false := by
    split at h
    · cases h
      exact hparts
    · cases h
  unfold Store.namesOf? at h
  split at h
  · cases h
    intro name hname
    exact (List.mem_append.mp hname).elim (hnull.current name) (hparts name)
  · exact hinside h
  · exact hinside h

theorem ends_stopWalk {fault : Walk.WalkFault} {outcome : Except Walk.WalkFault (List Source)}
    (hroot : request.options.LeadsTo store root) (h : Walk.Ends store root outcome)
    (hfault : outcome = .error fault) :
    Ends elapsed store request p (stopWalk fault : Run Stop α).outcome := by
  cases h with
  | found => cases hfault
  | rootTooLong hlong =>
    cases hfault
    exact .complaint (.rootTooLong hroot hlong)
  | @rules fault hrules =>
    cases hfault
    cases fault with
    | unreadable => exact .complaint (.rulesUnreadable hroot hrules)
    | undecodable => exact .complaint (.rulesUndecodable hroot hrules)
    | unusable => exact .fault (.ignoreLine hroot hrules)
  | entryTooLong hentry hlong =>
    cases hfault
    exact .complaint (.entryTooLong hroot hentry hlong)

/-- Looking for source files ends with files that can be asked for, in known languages. -/
theorem ends_collectSources (htree : store.IsTree) (hnull : store.IsNullFree) :
    Ends elapsed store request (fun sources => ∀ source ∈ sources, Walk.IsKnown source)
      (collectSources store request.options).outcome := by
  have hpresent : Ends elapsed store request
      (fun names? => presentAt? store (Path.ofText request.options.path) = .ok names?)
      ((presentAt? store (Path.ofText request.options.path)).mapError (Stop.fault <| .access ·)) := by
    cases hnames : presentAt? store (Path.ofText request.options.path) with
    | ok names? => exact .result rfl
    | error fault =>
      obtain rfl := fault_of_presentAt? hnames
      exact .fault (.pathTooLong rfl hnames)
  have hexclusion : Ends elapsed store request (fun _ => True)
      (request.options.exclusion.mapError (Stop.fault <| .rule ·)) := by
    cases hrules : request.options.exclusion with
    | ok exclusion => exact .result trivial
    | error fault => exact .fault (.glob hrules)
  unfold collectSources
  refine (ends_demand _ _).bind fun _ _ _ => Ends.bind hpresent fun names? _ hnames => ?_
  cases names? with
  | none => exact .complaint (.pathMissing hnames)
  | some names =>
    obtain ⟨hpath, hplace, root, hlocate⟩ := present_of_presentAt? hnames
    refine (ends_demand _ _).bind fun _ _ _ => (ends_demand _ _).bind fun _ _ _ =>
      (ends_demand _ _).bind fun _ _ _ => Ends.bind hexclusion fun exclusion _ _ => ?_
    have hwalk := Walk.ends_sourcesAt htree hnull (holdsNull_of_namesOf? hnull hpath hplace) hlocate
      (! request.options.includeTests) exclusion
    simp only [Run.outcome_bind, ok_bind]
    cases houtcome : (Walk.sourcesAt store names (! request.options.includeTests)
      exclusion).outcome with
    | ok sources =>
      rw [houtcome] at hwalk
      cases hwalk with
      | found h => exact .result h
    | error fault => exact ends_stopWalk ⟨names, hnames, hlocate⟩ hwalk houtcome

end Collecting

section Tasks

variable {sources : List Source} {document : Document}
  (hsources : (collectSources store request.options).outcome = .ok sources)

/-- A path that cannot be saved to at all holds a null character. -/
theorem hasNull_of_save {path : Path} {content : List UInt8} {fault : PathFault}
    (h : store.save path content = .error (.invalidPath fault)) : path.hasNull = true := by
  cases hnull : path.hasNull with
  | true => rfl
  | false =>
    have hparent : path.parent.hasNull = false := by
      have hparts : ∀ name ∈ path.parts, Path.holdsNull name = false := by
        simpa [Path.hasNull] using hnull
      simpa [Path.hasNull, Path.parent] using fun name hname => hparts name (List.dropLast_subset _ hname)
    rw [Store.save] at h
    simp only [hparent, hnull, Bool.false_eq_true, if_false] at h
    cases hprepared : store.prepare path.parent with
    | error cause =>
      rw [hprepared] at h
      cases h
    | ok prepared =>
      rw [hprepared] at h
      cases hwritten : prepared.writeAt path content with
      | error cause =>
        simp [Except.mapError, hwritten, bind, Except.bind] at h
      | ok changed =>
        simp [Except.mapError, hwritten, bind, Except.bind] at h

include hsources

/-- A report of a project of moderate size that can be told does not fail. -/
theorem huge_of_error {result : Except ReportFault α} {fault : ReportFault}
    (h : projectSize store sources < 2 ^ 100 → IsSmall elapsed → ∃ a, result = .ok a)
    (hfault : result = .error fault) : Unforeseen elapsed store request (.report fault) := by
  refine .huge hsources ?_
  by_contra hmoderate
  rw [not_or, not_le, not_not] at hmoderate
  obtain ⟨a, hresult⟩ := h hmoderate.1 hmoderate.2
  rw [hresult] at hfault
  cases hfault

theorem ends_documentText
    (h : projectSize store sources < 2 ^ 100 → IsSmall elapsed → document.IsSmall) :
    Ends elapsed store request (fun text => Report.documentText document = .ok text)
      (documentText document).outcome :=
  ends_reported fun _ => huge_of_error hsources fun hsize helapsed =>
    (h hsize helapsed).exists_documentText

theorem ends_saveDocument {target text : String} (htarget : request.SavesTo target) :
    Ends elapsed store request (Reported store request)
      (saveDocument store (scanErrorLines store sources) target text).outcome := by
  unfold saveDocument
  cases hsave : store.save (Path.ofText target) (Text.Utf8.encode text.toList) with
  | ok changed => exact .result (.saved hsources htarget hsave)
  | error cause =>
    cases cause with
    | invalidPath fault => exact .fault (.outputPath htarget (hasNull_of_save hsave))
    | access fault => exact .complaint (.outputRefused hsources htarget hsave)

end Tasks

theorem ends_runCount (htree : store.IsTree) (hnull : store.IsNullFree) :
    Ends elapsed store request (Reported store request)
      (runCount elapsed store request.options).outcome := by
  unfold runCount
  refine (ends_collectSources htree hnull).bind fun sources hsources hknown => ?_
  have htaken : ((takeCensus Digest.Md5.digest store sources).mapFault
      (Stop.fault <| .invalidPath ·)).outcome = .ok (censusOf Digest.Md5.digest store sources) := by
    rw [Run.mapFault, outcome_takeCensus fun source hsource => (hknown source hsource).addressable]
    rfl
  let census := { censusOf Digest.Md5.digest store sources with elapsed }
  have hsmall (hsize : projectSize store sources < 2 ^ 100) (helapsed : IsSmall elapsed) :
      IsSmallCensus census := isSmall_censusOf Digest.Md5.digest hsize helapsed
  have hnames : ∀ l ∈ census.languages, ∃ language ∈ Language.all, language.name = l.name := by
    intro l hl
    have hlanguage : l ∈ (censusOf Digest.Md5.digest store sources).languages := hl
    obtain ⟨source, hsource, hname⟩ := exists_source_of_mem_languages hlanguage
    exact ⟨source.language, (hknown source hsource).language, hname⟩
  have herrors : errorLines census.errors = scanErrorLines store sources := by
    change errorLines (censusOf Digest.Md5.digest store sources).errors = _
    rw [errors_censusOf]
    rfl
  rw [Run.outcome_bind, htaken, ok_bind]
  cases hformat : request.options.format with
  | json =>
    refine Ends.bind (ends_documentText hsources fun hsize helapsed =>
      isSmall_censusDocument (hsmall hsize helapsed)) fun text _ _ => ?_
    rw [herrors]
    exact .result (.printed (printedDocument text) hsources)
  | table =>
    refine Ends.bind (ends_reported fun _ => huge_of_error hsources fun hsize helapsed =>
      exists_censusLines terminal (hsmall hsize helapsed) hnames _) fun lines _ _ => ?_
    rw [herrors]
    exact .result (.printed (printed lines) hsources)

theorem isModerate_scanOf {sources : List Source} (strip : Bool)
    (h : projectSize store sources < 2 ^ 100) : IsModerate (scanOf store sources strip).files := by
  have hlines : lineTotal (countedFiles store sources) < 2 ^ 100 :=
    Nat.lt_of_le_of_lt (Nat.le_add_left _ _) h
  constructor
  · have hle := total_lines_scanOf_le store sources strip
    omega
  · rintro line ⟨file, hfile, hline⟩
    obtain ⟨hnonneg, hle⟩ := number_within_of_mem_scanOf hfile hline
    exact .of_nonneg_of_le hnonneg hle (by omega)

section Findings

variable {sources : List Source} {groups : List Group} {files : List CodeFile} {document : Document}
  (hsources : (collectSources store request.options).outcome = .ok sources)
  (hfiles : files = (scanOf store sources (! request.options.includeTests)).files)
  (hsize : 0 < request.options.minLines)
  (hdetect : (detect request.options.settings files).outcome = .ok groups)
include hsources hfiles hsize hdetect

theorem unforeseen_of_duplicateLines {fault : ReportFault} (htask : request.task = .duplicates)
    (hformat : request.options.format = .table)
    (hfault : duplicateLines request.options files groups = .error fault) :
    Unforeseen elapsed store request (.report fault) := by
  subst hfiles
  by_cases htexts : request.options.report = true →
      IsUnpairedProject (scanOf store sources (! request.options.includeTests)).files
  · exact huge_of_error hsources (fun hproject _ =>
      exists_duplicateLines hsize (isModerate_scanOf _ hproject) hdetect htexts) hfault
  · rw [Classical.not_imp] at htexts
    exact .joiners htask hformat htexts.1 hsources htexts.2

theorem unforeseen_of_duplicateDocument {fault : ReportFault}
    (hfault : duplicateDocument request.options files groups = .error fault) :
    Unforeseen elapsed store request (.report fault) := by
  subst hfiles
  refine huge_of_error hsources (fun hproject _ => ?_) hfault
  obtain ⟨document, hdocument, -⟩ :=
    exists_duplicateDocument hsize (isModerate_scanOf _ hproject) hdetect
  exact ⟨document, hdocument⟩

omit hsources in
theorem isSmall_of_duplicateDocument
    (hdocument : duplicateDocument request.options files groups = .ok document)
    (hproject : projectSize store sources < 2 ^ 100) : document.IsSmall := by
  subst hfiles
  obtain ⟨small, hsame, hsmall⟩ :=
    exists_duplicateDocument hsize (isModerate_scanOf _ hproject) hdetect
  rw [hdocument] at hsame
  rwa [Except.ok.inj hsame]

end Findings

theorem ends_runDuplicates (htree : store.IsTree) (hnull : store.IsNullFree)
    (htask : request.task = .duplicates) :
    Ends elapsed store request (Reported store request)
      (runDuplicates store request.options).outcome := by
  unfold runDuplicates
  refine (ends_checkNumbers htask).bind fun _ _ hnumbers => ?_
  refine (ends_collectSources htree hnull).bind fun sources hsources hknown => ?_
  let strip := ! request.options.includeTests
  let scan := scanOf store sources strip
  have hscan : ((normalizeIn (.ofJobs request.options.jobs) store sources strip
      (List.range sources.length)).mapFault (Stop.fault <| .invalidPath ·)).outcome = .ok scan := by
    rw [Run.mapFault, outcome_normalizeIn (fun source hsource => (hknown source hsource).addressable)
      (List.Perm.refl _)]
    rfl
  obtain ⟨groups, -, hdetect, -⟩ := exists_detected hnumbers.1 scan.files
  have hgroups : ((detect request.options.settings scan.files).mapFault
      (Stop.fault <| .detection ·)).outcome = .ok groups := by
    rw [Run.mapFault, hdetect]
    rfl
  have herrors : errorLines scan.errors = scanErrorLines store sources :=
    congrArg errorLines (errors_scanOf store sources strip)
  rw [Run.outcome_bind, hscan, ok_bind, Run.outcome_bind, hgroups, ok_bind]
  cases hformat : request.options.format with
  | table =>
    refine Ends.bind (ends_reported fun _ => unforeseen_of_duplicateLines hsources rfl hnumbers.1
      hdetect htask hformat) fun lines _ _ => ?_
    rw [herrors]
    exact .result (.printed (printed lines) hsources)
  | json =>
    refine Ends.bind (ends_reported fun _ => unforeseen_of_duplicateDocument hsources rfl hnumbers.1
      hdetect) fun document _ hdocument => ?_
    refine Ends.bind (ends_documentText hsources fun hproject _ =>
      isSmall_of_duplicateDocument rfl hnumbers.1 hdetect hdocument hproject) fun text _ _ => ?_
    rw [herrors]
    cases houtput : request.options.output with
    | none => exact .result (.printed (printedDocument text) hsources)
    | some target =>
      simp only [Option.getD_some]
      split
      · exact .result (.printed (printedDocument text) hsources)
      · exact ends_saveDocument hsources ⟨htask, hformat, houtput⟩

section Globs

variable {arguments : List String} {names : List String} {fault : Ignore.RuleFault}

/-- A glob that makes no sense ends a run in a fault wherever it is looked at: behind the check of the
numbers and of the path, and before any file is. -/
theorem outcome_execute_of_glob (hrequest : readRequest arguments = .ok request)
    (hwithheld : request.options.withheld = [])
    (hnumbers : request.task = .duplicates → 0 < request.options.minLines ∧ 0 < request.options.jobs)
    (hpresent : presentAt? store (Path.ofText request.options.path) = .ok (some names))
    (hglob : request.options.exclusion = .error fault) :
    (execute elapsed store arguments).outcome = .error (.rule fault) := by
  have hdemand (setting : Setting) (need : Need) :
      (demand request.options setting need).outcome = .ok () := by
    rw [demand, hwithheld]
    rfl
  have hcollect : (collectSources store request.options).outcome = .error (.fault (.rule fault)) := by
    simp only [collectSources, Run.outcome_bind, hdemand, Run.outcome_ofExcept, hpresent, hglob,
      Except.mapError, ok_bind]
    rfl
  have htask : (runTask elapsed store request).outcome = .error (.fault (.rule fault)) := by
    unfold runTask
    cases htask : request.task with
    | count =>
      simp only [runCount, Run.outcome_bind, hcollect]
      rfl
    | duplicates =>
      obtain ⟨hsize, hjobs⟩ := hnumbers htask
      have hchecked : (checkNumbers request.options).outcome = .ok () := by
        simp only [checkNumbers, Run.outcome_bind, hdemand, ok_bind, if_neg (Int.not_le.mpr hsize),
          if_neg (Int.not_le.mpr hjobs), Run.outcome_pure]
      simp only [runDuplicates, Run.outcome_bind, hchecked, ok_bind, hcollect]
      rfl
  rw [execute, hrequest]
  simp only [settle, htask]

def loneStore : Store :=
  { base := "", current := [], entries := [(["a.py"], .file [0x78, 0x0A])] }

/-- A command line with a glob that takes back nothing. -/
def bangArguments : List String := ["loc", "--exclude", "!"]

theorem readRequest_bangArguments :
    readRequest bangArguments = .ok ⟨.count, { excludeGlobs := ["!"] }⟩ := by
  have hbefore : roles [.help] bangArguments =
      .ok [("loc", .operand), ("--exclude", .unknown), ("!", .operand)] := by decide +kernel
  have htask : findTask [("loc", .operand), ("--exclude", .unknown), ("!", .operand)] =
      .ok (.count, [], ["--exclude", "!"]) := by decide +kernel
  have hafter : roles Task.count.switches ["--exclude", "!"] =
      .ok [("--exclude", .switch (.setting .exclude) none), ("!", .operand)] := by decide +kernel
  have hoptions : readTask .count ["--exclude", "!"] = .ok ({ excludeGlobs := ["!"] }, []) := by
    rw [readTask, hafter]
    decide +kernel
  rw [readRequest, hbefore]
  simp only [Except.mapError, ok_bind, htask, hoptions]
  rfl

theorem loneStore_isTree : loneStore.IsTree := by
  decide

theorem loneStore_isNullFree : loneStore.IsNullFree := by
  constructor
  · simp [loneStore]
  · simp [loneStore, Path.holdsNull]
  · simp [loneStore]

theorem presentAt?_loneStore : presentAt? loneStore (Path.ofText ".") = .ok (some []) := by
  have hpath : Path.ofText "." = ⟨.relative, []⟩ := by decide +kernel
  have hstatus : loneStore.status [] = .ok .directory := loneStore_isTree.status_eq rfl rfl
  have hnames : loneStore.namesOf? ⟨.relative, []⟩ = some [] := rfl
  have hshort : Path.isTooLong ⟨.relative, []⟩ = false := by decide
  rw [hpath, presentAt?, hshort, hnames]
  simp only [hstatus]
  rfl

theorem exists_fault_bangArguments (elapsed : Int) :
    ∃ fault, (execute elapsed loneStore bangArguments).outcome = .error fault := by
  have hglob : ({ excludeGlobs := ["!"] } : Options).exclusion.isOk = false := by decide +kernel
  cases hexclusion : ({ excludeGlobs := ["!"] } : Options).exclusion with
  | ok exclusion =>
    rw [hexclusion] at hglob
    cases hglob
  | error fault =>
    refine ⟨.rule fault, outcome_execute_of_glob readRequest_bangArguments rfl (fun h => ?_)
      presentAt?_loneStore hexclusion⟩
    cases h

end Globs

/-- A run that ends as foreseen. -/
inductive Foreseen (store : Store) (arguments : List String) : Outcome → Prop where
  /-- The command line is refused, or help is asked for. -/
  | refused {refused : Refused} (h : readRequest arguments = .error refused) :
    Foreseen store arguments { exit := .failure, usage := refused.message?, store }
  /-- The run is given up with a complaint. -/
  | complained {request : Request} {text : String} (hrequest : readRequest arguments = .ok request)
      (h : Complaint store request text) :
    Foreseen store arguments { exit := .failure, errors := text, store }
  | reported {request : Request} {outcome : Outcome} (hrequest : readRequest arguments = .ok request)
      (h : Reported store request outcome) : Foreseen store arguments outcome

/-- Every run on a tree ends as foreseen, or in a fault that comes of something that nothing checks
for.  A foreseen run reports and tells of every source file that it could not read, or it exits with
a failure and says why. -/
theorem execute_ends (htree : store.IsTree) (hnull : store.IsNullFree) (elapsed : Int)
    (arguments : List String) :
    (∃ outcome, (execute elapsed store arguments).outcome = .ok outcome ∧
      Foreseen store arguments outcome) ∨
    ∃ request fault, readRequest arguments = .ok request ∧
      (execute elapsed store arguments).outcome = .error fault ∧
      Unforeseen elapsed store request fault := by
  unfold execute
  cases hrequest : readRequest arguments with
  | error refused => exact .inl ⟨_, rfl, .refused hrequest⟩
  | ok request =>
    have hends : Ends elapsed store request (Reported store request)
        (runTask elapsed store request).outcome := by
      unfold runTask
      cases htask : request.task with
      | count => exact ends_runCount htree hnull
      | duplicates => exact ends_runDuplicates htree hnull htask
    simp only [settle]
    cases houtcome : (runTask elapsed store request).outcome with
    | ok outcome =>
      rw [houtcome] at hends
      cases hends with
      | result h => exact .inl ⟨outcome, rfl, .reported hrequest h⟩
    | error stop =>
      rw [houtcome] at hends
      cases hends with
      | complaint h => exact .inl ⟨_, rfl, .complained hrequest h⟩
      | fault h => exact .inr ⟨request, _, rfl, rfl, h⟩

/-- The command line with the glob `!` ends in such a fault. -/
theorem bangArguments_end_unforeseen : loneStore.IsTree ∧ loneStore.IsNullFree ∧
    ∃ request fault, readRequest bangArguments = .ok request ∧
      (execute 0 loneStore bangArguments).outcome = .error fault ∧
      Unforeseen 0 loneStore request fault := by
  refine ⟨loneStore_isTree, loneStore_isNullFree, ?_⟩
  refine (execute_ends loneStore_isTree loneStore_isNullFree 0 bangArguments).resolve_left ?_
  rintro ⟨outcome, hok, -⟩
  obtain ⟨fault, hfault⟩ := exists_fault_bangArguments 0
  rw [hok] at hfault
  cases hfault

/-- Not every run ends in an exit code. -/
theorem not_every_run_exits : ¬ ∀ (elapsed : Int) (store : Store) (arguments : List String),
    store.IsTree → store.IsNullFree →
      ∃ outcome, (execute elapsed store arguments).outcome = .ok outcome := by
  intro h
  obtain ⟨outcome, hok⟩ := h 0 loneStore bangArguments loneStore_isTree loneStore_isNullFree
  obtain ⟨fault, hfault⟩ := exists_fault_bangArguments 0
  rw [hok] at hfault
  cases hfault

end SourceCensus.Command
