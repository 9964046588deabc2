import SourceCensus.Proofs.Scan.LineStates
import SourceCensus.Source.Normalized

/-! # Indentation -/

namespace SourceCensus

namespace Scan

variable {lexis : Lexis} {state : State} {line : List Char} {lines lines' : List (List Char)} {c : Char}

def unindent (line : List Char) : List Char :=
  line.dropWhile isAsciiBlank

section Step

variable (hvisible : lexis.MarkersVisible) (hc : isAsciiBlank c = true)

include hc in
theorem stepLiteral_blank_cons (delimiter : Literal) (more : List Char) :
    stepLiteral delimiter (c :: more) = some (.ofCode 1 none) := by
  cases delimiter with
  | plain quote =>
    have hbackslash : c ≠ '\\' := by
      rintro rfl
      exact absurd hc (by decide)
    have hquote : c ≠ quote.mark := by
      rintro rfl
      cases quote <;> exact absurd hc (by decide)
    simp [stepLiteral, hbackslash, hquote]
  | triple quote =>
    have htripled : quote.tripled.isPrefixOf (c :: more) = false :=
      isPrefixOf_blank_cons (by cases quote <;> decide) hc
    simp [stepLiteral, htripled]

include hvisible hc in
theorem stepComment_blank_cons (depth : Int) (more : List Char) :
    stepComment lexis depth (c :: more) = .ofComment 1 none := by
  unfold stepComment
  split
  · rfl
  · rename_i fence hblock
    have hfence : fence ∈ lexis.fences := by simp [Lexis.fences, hblock]
    obtain ⟨hopener, hcloser⟩ := Lexis.mem_markers_of_mem_fences hfence
    rw [isPrefixOf_blank_cons (hvisible _ hopener) hc, isPrefixOf_blank_cons (hvisible _ hcloser) hc]
    simp

include hvisible hc in
/-- A step at a blank passes it, and the line stands as at its start. -/
theorem step_blank_cons (state : State) (more : List Char) :
    ∃ s, step lexis state (c :: more) = some s ∧ s.advance = 1 ∧ s.stop = false ∧
      (Progress.atStart state).after s = .atStart state := by
  cases state with
  | normal => exact ⟨_, stepNormal_blank_cons hvisible hc more, rfl, rfl, rfl⟩
  | literal delimiter => exact ⟨_, stepLiteral_blank_cons hc delimiter more, rfl, rfl, rfl⟩
  | comment depth =>
    exact ⟨_, congrArg some (stepComment_blank_cons hvisible hc depth more), rfl, rfl, rfl⟩

end Step

/-- What no blank at the start of a line changes, its indentation does not change. -/
theorem apply_unindent {α : Type} {f : List Char → α}
    (h : ∀ c more, isAsciiBlank c = true → f (c :: more) = f more) (line : List Char) :
    f (unindent line) = f line := by
  induction line with
  | nil => rfl
  | cons c more ih =>
    by_cases hc : isAsciiBlank c = true
    · rw [unindent, List.dropWhile_cons_of_pos hc, ← unindent, ih, h c more hc]
    · rw [unindent, List.dropWhile_cons_of_neg hc]

theorem scanned_unindent (hvisible : lexis.MarkersVisible) (state : State) (line : List Char) :
    scanned lexis (.atStart state) (unindent line) = scanned lexis (.atStart state) line := by
  refine apply_unindent (fun c more hc => ?_) line
  obtain ⟨s, hstep, hadvance, hgo, hafter⟩ := step_blank_cons hvisible hc state more
  rw [scanned_of_step hvisible.fencesSolid hstep hgo, hafter, hadvance]
  rfl

theorem isBlankText_unindent (line : List Char) :
    Text.isBlankText (unindent line) = Text.isBlankText line := by
  refine apply_unindent (fun c more hc => ?_) line
  rw [Text.isBlankText_cons, isBlank_of_isAsciiBlank hc, Bool.true_and]

theorem trim_unindent (line : List Char) : Text.trim (unindent line) = Text.trim line := by
  refine apply_unindent (fun c more hc => ?_) line
  rw [Text.trim, Text.trim, Text.trimStart_cons_of_isBlank (isBlank_of_isAsciiBlank hc)]

/-- The indentation of a line changes neither its kind nor the state that it leaves. -/
theorem classifyLine_unindent (hvisible : lexis.MarkersVisible) (state : State) (line : List Char) :
    classifyLine lexis state (unindent line) = classifyLine lexis state line := by
  by_cases h : Text.isBlankText line = false ∨ state.inComment = true
  · have h' : Text.isBlankText (unindent line) = false ∨ state.inComment = true := by
      rwa [isBlankText_unindent]
    rw [classifyLine_eq_scanned hvisible.fencesSolid state line h,
      classifyLine_eq_scanned hvisible.fencesSolid state _ h', scanned_unindent hvisible]
  · have hblank : (Text.isBlankText line && ! state.inComment) = true := by
      simpa using h
    rw [classifyLine, classifyLine, isBlankText_unindent, if_pos hblank, if_pos hblank]

theorem trace_unindent (hvisible : lexis.MarkersVisible) (state : State)
    (lines : List (List Char)) :
    trace lexis state (lines.map unindent) = trace lexis state lines := by
  induction lines generalizing state with
  | nil => rfl
  | cons line lines ih =>
    rw [List.map_cons, trace_cons, trace_cons, classifyLine_unindent hvisible, ih]

theorem trace_eq_of_unindent (hvisible : lexis.MarkersVisible)
    (h : lines.map unindent = lines'.map unindent) (state : State) :
    trace lexis state lines = trace lexis state lines' := by
  rw [← trace_unindent hvisible state lines, h, trace_unindent hvisible]

theorem classifyLines_of_no_interpreter
    (h : ∀ first, lines.head? = some first → isInterpreterLine first = false) :
    classifyLines lexis lines = (trace lexis .normal lines).map (·.1) := by
  cases lines with
  | nil => rfl
  | cons first rest => simp [classifyLines, h first rfl]

/-- An interpreter line counts as such only where it starts the file, so the first lines must be the
same or none of them may be one. -/
theorem classifyLines_eq_of_unindent (hvisible : lexis.MarkersVisible)
    (h : lines.map unindent = lines'.map unindent)
    (hfirst : lines.head? = lines'.head? ∨ ∀ first,
      lines.head? = some first ∨ lines'.head? = some first → isInterpreterLine first = false) :
    classifyLines lexis lines = classifyLines lexis lines' := by
  rcases hfirst with hsame | hnone
  · cases lines with
    | nil =>
      obtain rfl : lines' = [] := List.map_eq_nil_iff.mp h.symm
      rfl
    | cons first rest =>
      obtain ⟨rest', rfl⟩ : ∃ rest', lines' = first :: rest' := List.head?_eq_some_iff.mp hsame.symm
      have hrest : rest.map unindent = rest'.map unindent := (List.cons.inj h).2
      simp only [classifyLines, trace_eq_of_unindent hvisible hrest, trace_eq_of_unindent hvisible h]
  · rw [classifyLines_of_no_interpreter fun first hhead => hnone first (.inl hhead),
      classifyLines_of_no_interpreter fun first hhead => hnone first (.inr hhead),
      trace_eq_of_unindent hvisible h]

theorem ofKinds_unindent (lines : List (List Char)) (kinds : List LineKind) :
    CodeLine.ofKinds (lines.map unindent) kinds = CodeLine.ofKinds lines kinds := by
  have hline (entry : (List Char × LineKind) × Nat) :
      CodeLine.ofLine? ((unindent entry.1.1, entry.1.2), entry.2) = CodeLine.ofLine? entry := by
    simp only [CodeLine.ofLine?, trim_unindent]
  rw [CodeLine.ofKinds, CodeLine.ofKinds, List.zip_map_left, List.zipIdx_map, List.filterMap_map]
  exact List.filterMap_congr fun entry _ => hline entry

/-- Indenting the lines of a file in another way changes neither their kinds nor the lines of code,
their numbers and their texts without blanks at the ends, in every language whose markers do not start
with a blank, as those of all known languages do not.  The first line has to stay as it is where it
names an interpreter, and must not come to name one. -/
theorem indentation_irrelevant :
    (∀ language ∈ Language.all, language.lexis.MarkersVisible) ∧
    ∀ lexis : Lexis, lexis.MarkersVisible → ∀ lines lines' : List (List Char),
      lines.map unindent = lines'.map unindent →
      (lines.head? = lines'.head? ∨ ∀ first,
        lines.head? = some first ∨ lines'.head? = some first → isInterpreterLine first = false) →
      classifyLines lexis lines = classifyLines lexis lines' ∧
      CodeLine.ofKinds lines (classifyLines lexis lines) =
        CodeLine.ofKinds lines' (classifyLines lexis lines') := by
  refine ⟨Lexis.markersVisible_of_mem_all, fun lexis hvisible lines lines' h hfirst => ?_⟩
  have hkinds := classifyLines_eq_of_unindent hvisible h hfirst
  refine ⟨hkinds, ?_⟩
  rw [hkinds, ← ofKinds_unindent lines, h, ofKinds_unindent]

/-- A comment and a string over several lines, with code and a blank line between them. -/
def stretchedLines : List (List Char) :=
  [['/', '*', 'a'], ['\t', '*', '/'], [' ', 'x', ' '], [], ['"', '"', '"', 'y'], [' ', '#', '!'],
    ['"', '"', '"']]

def shiftedLines : List (List Char) :=
  [[' ', '/', '*', 'a'], ['*', '/'], ['\t', '\t', 'x', ' '], ['\x0c'], ['\r', '"', '"', '"', 'y'],
    ['#', '!'], [' ', '"', '"', '"']]

/-- The stretched lines give the same code in both indentations. -/
theorem stretchedLines_shifted :
    richLexis.MarkersVisible ∧ stretchedLines.map unindent = shiftedLines.map unindent ∧
    classifyLines richLexis stretchedLines =
      [.comment, .comment, .code, .blank, .code, .code, .code] ∧
    classifyLines richLexis stretchedLines = classifyLines richLexis shiftedLines ∧
    CodeLine.ofKinds stretchedLines (classifyLines richLexis stretchedLines) =
      CodeLine.ofKinds shiftedLines (classifyLines richLexis shiftedLines) := by
  have hvisible : richLexis.MarkersVisible := by decide
  have hsame : stretchedLines.map unindent = shiftedLines.map unindent := by decide
  have hfirst : ∀ first, stretchedLines.head? = some first ∨ shiftedLines.head? = some first →
      isInterpreterLine first = false := by
    rintro first (h | h) <;> cases h <;> rfl
  exact ⟨hvisible, hsame, by decide, indentation_irrelevant.2 richLexis hvisible stretchedLines
    shiftedLines hsame (.inr hfirst)⟩

end Scan

end SourceCensus
