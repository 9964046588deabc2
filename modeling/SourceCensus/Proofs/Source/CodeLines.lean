import Mathlib.Tactic.SplitIfs
import SourceCensus.Proofs.Source.Outcomes
import SourceCensus.Proofs.Store.Tree

/-! # The lines of code of a file -/

namespace SourceCensus

variable {lexis : Lexis} {lines : List (List Char)} {kinds : List Scan.LineKind} {codeLine : CodeLine}

section Cutting

open Scan

theorem trace_take (lexis : Lexis) (state : State) (lines : List (List Char)) (count : Nat) :
    trace lexis state (lines.take count) = (trace lexis state lines).take count := by
  induction lines generalizing state count with
  | nil => simp
  | cons line lines ih =>
    cases count with
    | zero => rfl
    | succ count => rw [List.take_succ_cons, trace_cons, trace_cons, List.take_succ_cons, ih]

/-- The first lines of a file are of the same kinds by themselves as in the file. -/
theorem classifyLines_take (lexis : Lexis) (lines : List (List Char)) (count : Nat) :
    classifyLines lexis (lines.take count) = (classifyLines lexis lines).take count := by
  cases lines with
  | nil => simp [classifyLines]
  | cons first rest =>
    cases count with
    | zero => rfl
    | succ count =>
      rw [List.take_succ_cons, classifyLines, classifyLines]
      split_ifs
      · rw [List.take_succ_cons, trace_take, List.map_take]
      · rw [← List.take_succ_cons, trace_take, List.map_take]

end Cutting

section Numbering

/-- A line of code is a line of the file under its number, and its text is that line trimmed. -/
theorem mem_ofKinds : codeLine ∈ CodeLine.ofKinds lines kinds ↔
    ∃ (i : Nat) (line : List Char), lines[i]? = some line ∧ kinds[i]? = some .code ∧
      codeLine = ⟨i + 1, Text.trim line⟩ := by
  rw [CodeLine.ofKinds, List.mem_filterMap]
  constructor
  · rintro ⟨⟨⟨line, kind⟩, number⟩, hentry, hline⟩
    obtain ⟨hle, hzip⟩ := List.mk_mem_zipIdx_iff_le_and_getElem?_sub.mp hentry
    obtain ⟨hgetline, hgetkind⟩ := List.getElem?_zip_eq_some.mp hzip
    unfold CodeLine.ofLine? at hline
    split_ifs at hline with hkind
    obtain rfl : kind = .code := hkind
    refine ⟨number - 1, line, hgetline, hgetkind, ?_⟩
    rw [← Option.some.inj hline, CodeLine.mk.injEq]
    exact ⟨by omega, rfl⟩
  · rintro ⟨i, line, hgetline, hgetkind, rfl⟩
    refine ⟨((line, .code), i + 1), ?_, rfl⟩
    exact List.mk_mem_zipIdx_iff_le_and_getElem?_sub.mpr
      ⟨Nat.le_add_left 1 i, List.getElem?_zip_eq_some.mpr ⟨hgetline, hgetkind⟩⟩

theorem pairwise_number_ofKinds (lines : List (List Char)) (kinds : List Scan.LineKind) :
    (CodeLine.ofKinds lines kinds).Pairwise fun a b => a.number < b.number := by
  have hnumbers : ((lines.zip kinds).zipIdx 1).Pairwise fun a b => a.2 < b.2 := by
    rw [← List.pairwise_map, List.zipIdx_map_snd]
    exact List.pairwise_lt_range'
  refine List.Pairwise.filterMap _ (fun entry entry' hlt => ?_) hnumbers
  intro line hline line' hline'
  unfold CodeLine.ofLine? at hline hline'
  split_ifs at hline hline'
  rw [← Option.some.inj hline, ← Option.some.inj hline']
  exact Int.ofNat_lt.mpr hlt

theorem ofKinds_take_prefix (lines : List (List Char)) (kinds : List Scan.LineKind) (count : Nat) :
    CodeLine.ofKinds (lines.take count) (kinds.take count) <+: CodeLine.ofKinds lines kinds := by
  have hzip : (lines.take count).zip (kinds.take count) = (lines.zip kinds).take count :=
    List.take_zipWith.symm
  have hprefix : ((lines.take count).zip (kinds.take count)).zipIdx 1 <+: (lines.zip kinds).zipIdx 1 := by
    have hsplit : ((lines.zip kinds).take count ++ (lines.zip kinds).drop count).zipIdx 1 = _ :=
      List.zipIdx_append
    rw [List.take_append_drop] at hsplit
    rw [hzip, hsplit]
    exact List.prefix_append _ _
  exact hprefix.filterMap CodeLine.ofLine?

end Numbering

section Tests

/-- The lines of a file that are looked at: all of them, or those before the first marker of tests. -/
def beforeTests (strip : Bool) (lines : List (List Char)) : List (List Char) :=
  if strip then lines.takeWhile (! isTestMarker ·) else lines

theorem beforeTests_eq_take (strip : Bool) (lines : List (List Char)) : beforeTests strip lines =
    lines.take (if strip then testStart lines else lines.length) := by
  cases strip with
  | false => exact (List.take_length).symm
  | true =>
    simp only [beforeTests, testStart, if_true, List.takeWhile_eq_take_findIdx_not, Bool.not_not]

/-- A line is looked at unless it or a line before it is a marker of tests. -/
theorem getElem?_beforeTests {strip : Bool} {i : Nat} {line : List Char} :
    (beforeTests strip lines)[i]? = some line ↔ lines[i]? = some line ∧
      (strip = true → ∀ other ∈ lines.take (i + 1), Text.trim other ≠ testMarker) := by
  cases strip with
  | false => simp [beforeTests]
  | true =>
    simp only [beforeTests, if_true, true_imp_iff]
    induction lines generalizing i with
    | nil => simp
    | cons first rest ih =>
      by_cases hfirst : isTestMarker first = true
      · have htrim : Text.trim first = testMarker := beq_iff_eq.mp hfirst
        rw [List.takeWhile_cons_of_neg (by simp [hfirst])]
        simp [htrim]
      · have htrim : Text.trim first ≠ testMarker := fun h => hfirst (beq_iff_eq.mpr h)
        rw [List.takeWhile_cons_of_pos (by simp [hfirst])]
        cases i with
        | zero => simp [htrim]
        | succ i => rw [List.getElem?_cons_succ, List.getElem?_cons_succ, ih]; simp [htrim]

/-- A line that is looked at is of the same kind as in the whole file. -/
theorem getElem?_classifyLines_beforeTests {strip : Bool} {i : Nat} {line : List Char}
    (h : (beforeTests strip lines)[i]? = some line) :
    (Scan.classifyLines lexis (beforeTests strip lines))[i]? = (Scan.classifyLines lexis lines)[i]? := by
  rw [beforeTests_eq_take] at h ⊢
  rw [classifyLines_take, List.getElem?_take_of_lt]
  exact Nat.lt_of_lt_of_le (List.getElem?_eq_some_iff.mp h).1 (List.length_take_le _ _)

theorem codeLines_ofText (lexis : Lexis) (content : List UInt8) (text : List Char) (strip : Bool) :
    (Reading.ofText lexis content text).codeLines strip =
      CodeLine.ofKinds (beforeTests strip (Text.sourceLines text))
        (Scan.classifyLines lexis (beforeTests strip (Text.sourceLines text))) := by
  rw [beforeTests_eq_take, classifyLines_take]
  rfl

end Tests

/-- The file that normalising a source file gives, where its content is text. -/
theorem outcome_normalizeSource {store : Store} {source : Source} {content : List UInt8}
    {text : List Char} (hcontent : contentOf store source.names = .ok content)
    (hbinary : isBinary content = false) (hdecode : Text.Utf8.decode content = .ok text)
    (strip : Bool) : (normalizeSource store source strip).outcome =
      .ok (some (source.normalized strip (.ofText source.language.lexis content text))) := by
  have hread : (readSource store source.language.lexis source.names).outcome =
      .ok (some (.ofText source.language.lexis content text)) := by
    rw [outcome_readSource, hcontent, ok_bind, Reading.ofContent?, hbinary, hdecode]
    rfl
  rw [normalizeSource, Run.outcome_bind, hread]
  rfl

/-- Normalising a source file keeps exactly its lines of code, at their places.  The lines that are kept
are in strictly increasing order of their numbers, and they are those lines of the file that are code
where the whole file is classified, each under its number and trimmed; if inline tests are left out, no
line up to them is a marker of tests.  What is kept then is a first part of what is kept otherwise,
and it is what the lines before the first marker give by themselves. -/
theorem normalization_keeps_code {store : Store} {source : Source} {content : List UInt8}
    {text : List Char} (hcontent : contentOf store source.names = .ok content)
    (hbinary : isBinary content = false) (hdecode : Text.Utf8.decode content = .ok text) :
    let lexis := source.language.lexis
    let lines := Text.sourceLines text
    let front := lines.takeWhile (Text.trim · != testMarker)
    ∃ kept : Bool → List CodeLine,
      (∀ strip,
        (normalizeSource store source strip).outcome =
          .ok (some ⟨Path.ofText source.path, kept strip⟩) ∧
        (kept strip).Pairwise (fun a b => a.number < b.number) ∧
        ∀ (n : Int) (t : List Char), ⟨n, t⟩ ∈ kept strip ↔
          ∃ (i : Nat) (line : List Char), n = i + 1 ∧ lines[i]? = some line ∧
            (Scan.classifyLines lexis lines)[i]? = some .code ∧ t = Text.trim line ∧
            (strip = true → ∀ other ∈ lines.take (i + 1), Text.trim other ≠ testMarker)) ∧
      kept true <+: kept false ∧
      kept true = CodeLine.ofKinds front (Scan.classifyLines lexis front) := by
  intro lexis lines front
  refine ⟨(Reading.ofText lexis content text).codeLines, fun strip => ⟨?_, ?_, fun n t => ?_⟩, ?_, ?_⟩
  · exact outcome_normalizeSource hcontent hbinary hdecode strip
  · exact pairwise_number_ofKinds _ _
  · rw [codeLines_ofText, mem_ofKinds]
    constructor
    · rintro ⟨i, line, hline, hkind, heq⟩
      rw [getElem?_classifyLines_beforeTests hline] at hkind
      obtain ⟨hget, htests⟩ := getElem?_beforeTests.mp hline
      obtain ⟨rfl, rfl⟩ := CodeLine.mk.inj heq
      exact ⟨i, line, rfl, hget, hkind, rfl, htests⟩
    · rintro ⟨i, line, rfl, hget, hkind, rfl, htests⟩
      have hline := getElem?_beforeTests.mpr ⟨hget, htests⟩
      rw [← getElem?_classifyLines_beforeTests hline] at hkind
      exact ⟨i, line, hline, hkind, rfl⟩
  · rw [codeLines_ofText, codeLines_ofText, beforeTests_eq_take true, classifyLines_take]
    exact ofKinds_take_prefix _ _ _
  · exact codeLines_ofText lexis content text true

/-- A comment that ends before a line of code, an indented marker of tests and another line of code. -/
def testedText : List Char :=
  ['/', '*', '\n', '*', '/', ' ', 'a', '\n', ' '] ++ testMarker ++ ['\r', '\n', 'b']

def testedContent : List UInt8 :=
  testedText.map fun c => c.toNat.toUInt8

def testedStore : Store :=
  { base := "", current := [], entries := [(["a"], .file testedContent)] }

def testedSource : Source :=
  ⟨["a"], "a", { name := "Starred", lexis := { block := some Language.starred } }⟩

theorem testedStore_isTree : testedStore.IsTree := by
  decide

/-- With the marker and what is behind it, and without them. -/
theorem testedSource_kept :
    contentOf testedStore testedSource.names = .ok testedContent ∧
    isBinary testedContent = false ∧ Text.Utf8.decode testedContent = .ok testedText ∧
    ∃ kept : Bool → List CodeLine,
      (∀ strip, (normalizeSource testedStore testedSource strip).outcome =
        .ok (some ⟨⟨.relative, ["a"]⟩, kept strip⟩)) ∧
      ⟨3, testMarker⟩ ∈ kept false ∧ ⟨4, ['b']⟩ ∈ kept false ∧
      kept true = [⟨2, ['*', '/', ' ', 'a']⟩] ∧ kept true <+: kept false := by
  have hcontent : contentOf testedStore testedSource.names = .ok testedContent := by
    have hread : testedStore.fullRead ["a"] = .ok testedContent :=
      testedStore_isTree.fullRead_eq rfl (by decide)
    rw [contentOf, testedSource, hread]
    rfl
  have hbinary : isBinary testedContent = false := by decide
  have hdecode : Text.Utf8.decode testedContent = .ok testedText := by decide +kernel
  obtain ⟨kept, hkept, hprefix, hfront⟩ := normalization_keeps_code hcontent hbinary hdecode
  have hlines : Text.sourceLines testedText =
      [['/', '*'], ['*', '/', ' ', 'a'], ' ' :: testMarker, ['b']] := by decide +kernel
  have hwhole := (hkept false).2.2
  rw [hlines] at hwhole hfront
  refine ⟨hcontent, hbinary, hdecode, kept, fun strip => (hkept strip).1, ?_, ?_, ?_, hprefix⟩
  · exact (hwhole 3 testMarker).mpr ⟨2, _, rfl, rfl, by decide, by decide, by simp⟩
  · exact (hwhole 4 ['b']).mpr ⟨3, _, rfl, rfl, by decide, by decide, by simp⟩
  · rw [hfront]
    decide

end SourceCensus
