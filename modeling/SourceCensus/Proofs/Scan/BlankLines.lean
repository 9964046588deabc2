import SourceCensus.Proofs.Scan.LineStates
import SourceCensus.Proofs.Text.Blanks
import SourceCensus.Source.Normalized

/-! # Blank lines -/

namespace SourceCensus

namespace Text

theorem isPrefixOf_of_isBlankText {marker s : List Char} (hmarker : isBlankText marker = false)
    (hs : isBlankText s = true) : marker.isPrefixOf s = false := by
  rw [Bool.eq_false_iff]
  intro hprefix
  have hall : isBlankText marker = true := List.all_eq_true.mpr fun c hc =>
    List.all_eq_true.mp hs c ((List.isPrefixOf_iff_prefix.mp hprefix).subset hc)
  rw [hmarker] at hall
  cases hall

end Text

def Lexis.BlockVisible (lexis : Lexis) : Prop :=
  ∀ fence, lexis.block = some fence →
    Text.isBlankText fence.opener = false ∧ Text.isBlankText fence.closer = false

namespace Scan

variable {lexis : Lexis} {p : Progress} {text : List Char} {c : Char} {s : Step} {state : State}

section Evidence

theorem Progress.kind_ne_blank_iff : p.kind ≠ .blank ↔ p.code = true ∨ p.comment = true := by
  unfold kind
  cases p.code <;> cases p.comment <;> simp

theorem kind_after_ne_blank (h : p.kind ≠ .blank ∨ s.code = true ∨ s.comment = true) :
    (p.after s).kind ≠ .blank := by
  rw [Progress.kind_ne_blank_iff] at h ⊢
  simp only [Progress.after, Bool.or_eq_true]
  tauto

/-- What was seen of a line is not taken back. -/
theorem kind_scan_ne_blank_of_kind (fuel : Nat) (text : List Char) (h : p.kind ≠ .blank) :
    (scan lexis fuel p text).kind ≠ .blank :=
  scan_keeps (motive := fun p => p.kind ≠ .blank)
    (fun _ _ _ _ hp _ => kind_after_ne_blank (.inl hp)) fuel text h

/-- Every step shows code or comment, unless it passes a blank. -/
theorem shows_of_step (h : step lexis state (c :: text) = some s) :
    s.code = true ∨ s.comment = true ∨
      isAsciiBlank c = true ∧ s = ⟨1, none, false, false, false⟩ := by
  cases stepCase_of_step h with
  | openTriple | passDirective | openPlain | closeTriple | closePlain | escape | inLiteral =>
    exact .inl rfl
  | openBlock | lineComment | openInner | closeBlock | inComment => exact .inr (.inl rfl)
  | passCharacter =>
    cases hc : isAsciiBlank c with
    | false => exact .inl rfl
    | true => exact .inr (.inr ⟨rfl, rfl⟩)

/-- The scan of a text that does not look blank sees code or comment. -/
theorem kind_scan_ne_blank {fuel : Nat} (htext : Text.isBlankText text = false)
    (hfuel : text.length ≤ fuel) : (scan lexis fuel p text).kind ≠ .blank := by
  induction fuel generalizing p text with
  | zero =>
    obtain rfl := List.eq_nil_of_length_eq_zero (Nat.le_zero.mp hfuel)
    cases htext
  | succ fuel ih =>
    cases text with
    | nil => cases htext
    | cons c more =>
      obtain ⟨s, hs⟩ := Option.isSome_iff_exists.mp (step_isSome lexis p.state c more)
      simp only [scan, hs]
      rcases or_assoc.mpr (shows_of_step hs) with hshows | ⟨hc, rfl⟩
      · have hafter : (p.after s).kind ≠ .blank := kind_after_ne_blank (.inr hshows)
        split_ifs
        · exact hafter
        · exact kind_scan_ne_blank_of_kind _ _ hafter
      · rw [Text.isBlankText_cons, isBlank_of_isAsciiBlank hc, Bool.true_and] at htext
        exact ih htext (Nat.le_of_succ_le_succ hfuel)

end Evidence

section Comment

/-- On a line that looks blank a block comment goes on. -/
theorem stepComment_of_isBlankText (hblock : lexis.BlockVisible) (depth : Int)
    (htext : Text.isBlankText text = true) : stepComment lexis depth text = .ofComment 1 none := by
  unfold stepComment
  split
  · rfl
  · rename_i fence hfence
    obtain ⟨hopener, hcloser⟩ := hblock fence hfence
    rw [Text.isPrefixOf_of_isBlankText hopener htext, Text.isPrefixOf_of_isBlankText hcloser htext]
    simp

theorem scan_comment_of_isBlankText (hblock : lexis.BlockVisible) (depth : Int) (fuel : Nat)
    (htext : Text.isBlankText text = true) :
    scan lexis fuel (.atStart (.comment depth)) text = .atStart (.comment depth) := by
  induction fuel generalizing text with
  | zero => rfl
  | succ fuel ih =>
    cases text with
    | nil => rfl
    | cons c more =>
      have hstep : step lexis (.comment depth) (c :: more) = some (.ofComment 1 none) :=
        congrArg some (stepComment_of_isBlankText hblock depth htext)
      rw [Text.isBlankText_cons, Bool.and_eq_true] at htext
      simp only [scan, Progress.atStart, hstep]
      exact ih htext.2

end Comment

section Lines

/-- A line that is scanned is never found blank by its scan. -/
theorem kind_scan_line_ne_blank {line : List Char}
    (h : Text.isBlankText line = false ∨ state.inComment = true) :
    (scan lexis (stepBound state line) (.atStart state) line).kind ≠ .blank := by
  rcases h with hline | hcomment
  · exact kind_scan_ne_blank hline (length_le_stepBound state line)
  · exact kind_scan_ne_blank_of_kind _ _ (Progress.kind_ne_blank_iff.mpr (.inr hcomment))

theorem kind_classifyLine_eq_blank_iff (lexis : Lexis) (state : State) (line : List Char) :
    (classifyLine lexis state line).1 = .blank ↔
      Text.isBlankText line = true ∧ state.inComment = false := by
  unfold classifyLine
  split_ifs with h
  · simpa using h
  · have hscanned : Text.isBlankText line = false ∨ state.inComment = true := by
      simpa [or_iff_not_imp_left] using h
    refine iff_of_false (kind_scan_line_ne_blank hscanned) ?_
    rintro ⟨hline, hcomment⟩
    simp [hline, hcomment] at h

theorem isBlankText_of_kind_code (hblock : lexis.BlockVisible) {line : List Char}
    (h : (classifyLine lexis state line).1 = .code) : Text.isBlankText line = false := by
  rw [Bool.eq_false_iff]
  intro hline
  cases hcomment : state.inComment with
  | false =>
    rw [(kind_classifyLine_eq_blank_iff lexis state line).mpr ⟨hline, hcomment⟩] at h
    cases h
  | true =>
    cases state with
    | normal => cases hcomment
    | literal delimiter => cases hcomment
    | comment depth =>
      simp only [classifyLine, State.inComment, hline, Bool.not_true, Bool.and_false,
        Bool.false_eq_true, if_false, scan_comment_of_isBlankText hblock depth _ hline] at h
      cases h

theorem exists_state_of_mem_zip_trace {lines : List (List Char)} {line : List Char}
    {kind : LineKind} (h : (line, kind) ∈ lines.zip ((trace lexis state lines).map (·.1))) :
    ∃ start, (classifyLine lexis start line).1 = kind := by
  induction lines generalizing state with
  | nil => simp at h
  | cons first lines ih =>
    rw [trace_cons, List.map_cons, List.zip_cons_cons, List.mem_cons] at h
    rcases h with h | h
    · cases h
      exact ⟨state, rfl⟩
    · exact ih h

theorem isBlankText_of_mem_zip_classifyLines (hblock : lexis.BlockVisible)
    {lines : List (List Char)} {line : List Char}
    (h : (line, .code) ∈ lines.zip (classifyLines lexis lines)) : Text.isBlankText line = false := by
  have htrace {lines : List (List Char)}
      (h : (line, .code) ∈ lines.zip ((trace lexis .normal lines).map (·.1))) :
      Text.isBlankText line = false := by
    obtain ⟨start, hkind⟩ := exists_state_of_mem_zip_trace h
    exact isBlankText_of_kind_code hblock hkind
  cases lines with
  | nil => simp at h
  | cons first rest =>
    rw [classifyLines] at h
    split_ifs at h with hinterpreter
    · rw [List.zip_cons_cons, List.mem_cons] at h
      rcases h with h | h
      · cases h
        unfold isInterpreterLine at hinterpreter
        split at hinterpreter
        · rfl
        · cases hinterpreter
      · exact htrace h
    · exact htrace h

/-- A line is blank exactly when trimming leaves nothing of it and it does not start inside a block
comment; in particular no line is found blank by being scanned.  Where the markers of block comments do
not look blank, a line of code does not look blank either, so that no line of code of a file has an
empty text. -/
theorem blank_iff_looks_blank (lexis : Lexis) :
    (∀ (state : State) (line : List Char),
      ((classifyLine lexis state line).1 = .blank ↔
        Text.trim line = [] ∧ state.inComment = false) ∧
      (Text.trim line ≠ [] ∨ state.inComment = true →
        (scan lexis (stepBound state line) (.atStart state) line).kind ≠ .blank)) ∧
    (lexis.BlockVisible →
      (∀ (state : State) (line : List Char),
        (classifyLine lexis state line).1 = .code → Text.trim line ≠ []) ∧
      ∀ lines : List (List Char), ∀ codeLine ∈ CodeLine.ofKinds lines (classifyLines lexis lines),
        codeLine.text ≠ []) := by
  refine ⟨fun state line => ⟨?_, fun h => ?_⟩, fun hblock => ⟨fun state line h => ?_, ?_⟩⟩
  · rw [Text.trim_eq_nil_iff, kind_classifyLine_eq_blank_iff]
  · rw [Ne, Text.trim_eq_nil_iff, Bool.not_eq_true] at h
    exact kind_scan_line_ne_blank h
  · rw [Ne, Text.trim_eq_nil_iff, isBlankText_of_kind_code hblock h]
    exact Bool.false_ne_true
  · intro lines codeLine hmem
    obtain ⟨⟨⟨line, kind⟩, number⟩, hentry, hline⟩ := List.mem_filterMap.mp hmem
    have hzip : (line, kind) ∈ lines.zip (classifyLines lexis lines) :=
      List.fst_mem_of_mem_zipIdx hentry
    unfold CodeLine.ofLine? at hline
    split_ifs at hline with hkind
    cases hline
    obtain rfl : kind = .code := hkind
    rw [Ne, Text.trim_eq_nil_iff, isBlankText_of_mem_zip_classifyLines hblock hzip]
    exact Bool.false_ne_true

/-- Two blanks, of which the scanner does not know the second. -/
def foreignBlanks : List Char :=
  [' ', '\u00a0']

/-- The foreign blanks outside of comments, inside one, and behind the end of one. -/
def foreignLines : List (List Char) :=
  [foreignBlanks, ['/', '*'], foreignBlanks, ['*', '/'] ++ foreignBlanks]

/-- Outside of comments the foreign blanks are a blank line and inside they are none; behind a comment
they make its last line one of code, which is not empty. -/
theorem foreignLines_look_blank :
    richLexis.BlockVisible ∧
    (classifyLine richLexis .normal foreignBlanks).1 = .blank ∧
    (classifyLine richLexis (.comment 1) foreignBlanks).1 ≠ .blank ∧
    classifyLines richLexis foreignLines = [.blank, .comment, .comment, .code] ∧
    ∀ codeLine ∈ CodeLine.ofKinds foreignLines (classifyLines richLexis foreignLines),
      codeLine.text ≠ [] := by
  have hblock : richLexis.BlockVisible := by
    rintro fence ⟨⟩
    decide
  obtain ⟨hline, hcode⟩ := blank_iff_looks_blank richLexis
  refine ⟨hblock, (hline .normal foreignBlanks).1.mpr (by decide), fun hblank => ?_, by decide,
    (hcode hblock).2 foreignLines⟩
  exact absurd ((hline (.comment 1) foreignBlanks).1.mp hblank).2 (by decide)

end Lines

end Scan

end SourceCensus
