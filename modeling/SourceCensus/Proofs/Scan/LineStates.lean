import SourceCensus.Proofs.Scan.Course

/-! # States between lines -/

namespace SourceCensus

namespace Scan

/-- A state that a line may leave to the next one. -/
def State.Carried (lexis : Lexis) : State → Prop
  | .normal => True
  | .literal (.plain _) => False
  | .literal (.triple quote) => lexis.tripleQuotes = true ∧ lexis.delimits quote = true
  | .comment depth => lexis.block.isSome = true ∧ 1 ≤ depth ∧ (lexis.nests = false → depth = 1)

/-- A state that may occur within a line: there it may also be inside a plain string. -/
def State.Admitted (lexis : Lexis) : State → Prop
  | .literal (.plain quote) => lexis.delimits quote = true
  | state => state.Carried lexis

section Step

variable {lexis : Lexis} {state : State} {c : Char} {text : List Char} {s : Step}

theorem State.Carried.admitted (h : state.Carried lexis) : state.Admitted lexis := by
  cases state with
  | literal delimiter =>
    cases delimiter with
    | plain quote => exact h.elim
    | triple quote => exact h
  | _ => exact h

theorem State.Admitted.atLineEnd (h : state.Admitted lexis) : state.atLineEnd.Carried lexis := by
  cases state with
  | literal delimiter =>
    cases delimiter with
    | plain quote => trivial
    | triple quote => exact h
  | _ => exact h

theorem carried_afterCloser {depth : Int} (h : (State.comment depth).Carried lexis) :
    (afterCloser depth).Carried lexis := by
  obtain ⟨hblock, hdepth, hflat⟩ := h
  unfold afterCloser
  split_ifs with hle
  · trivial
  · refine ⟨hblock, by omega, fun hnests => ?_⟩
    have := hflat hnests
    omega

/-- Every step leads from an admitted state to an admitted one.  An opener inside a comment counts only
where comments nest, so that the depth of a flat comment stays one. -/
theorem State.Admitted.step (hstate : state.Admitted lexis)
    (h : step lexis state (c :: text) = some s) : (s.next.getD state).Admitted lexis := by
  cases stepCase_of_step h with
  | openTriple hon hquote => exact ⟨hon, hquote⟩
  | openBlock hfence => exact ⟨by simp [hfence], Int.le_refl 1, fun _ => rfl⟩
  | openPlain hquote => exact hquote
  | passDirective | lineComment | passCharacter | closeTriple | closePlain => trivial
  | escape | inLiteral | inComment => exact hstate
  | openInner hfence hnests =>
    have hdepth := hstate.2.1
    exact ⟨hstate.1, by omega, fun hflat => by simp [hnests] at hflat⟩
  | closeBlock => exact (carried_afterCloser hstate).admitted

end Step

section Run

variable {lexis : Lexis} {state : State}

theorem scan_keeps {motive : Progress → Prop} (hstep : ∀ p c more s, motive p →
      step lexis p.state (c :: more) = some s → motive (p.after s))
    (fuel : Nat) {p : Progress} (text : List Char) (hp : motive p) :
    motive (scan lexis fuel p text) := by
  induction fuel generalizing p text with
  | zero => exact hp
  | succ fuel ih =>
    cases text with
    | nil => exact hp
    | cons c more =>
      rw [scan]
      split
      · exact hp
      · rename_i s hs
        have hafter := hstep p c more s hp hs
        split_ifs
        · exact hafter
        · exact ih _ hafter

/-- What was seen to be code stays code. -/
theorem code_scan {p : Progress} (fuel : Nat) (text : List Char) (hp : p.code = true) :
    (scan lexis fuel p text).code = true := by
  refine scan_keeps (motive := fun p => p.code = true) (fun p _ _ s hp _ => ?_) fuel text hp
  simp [Progress.after, hp]

theorem admitted_scan (fuel : Nat) {p : Progress} (text : List Char)
    (hp : p.state.Admitted lexis) : (scan lexis fuel p text).state.Admitted lexis :=
  scan_keeps (motive := fun p => p.state.Admitted lexis) (fun _ _ _ _ hp hs => hp.step hs) fuel
    text hp

/-- A line leaves a state that may be carried if it was started in one. -/
theorem carried_classifyLine (hstate : state.Carried lexis) (line : List Char) :
    (classifyLine lexis state line).2.Carried lexis := by
  unfold classifyLine
  split_ifs
  · exact hstate
  · exact (admitted_scan _ _ hstate.admitted).atLineEnd

theorem carried_of_mem_trace (hstate : state.Carried lexis) {lines : List (List Char)}
    {entry : LineKind × State} (h : entry ∈ trace lexis state lines) :
    entry.2.Carried lexis := by
  induction lines generalizing state with
  | nil => simp at h
  | cons line lines ih =>
    have hline := carried_classifyLine hstate line
    rw [trace_cons, List.mem_cons] at h
    rcases h with rfl | h
    · exact hline
    · exact ih hline h

end Run

def fileTrace (lexis : Lexis) (lines : List (List Char)) : List (LineKind × State) :=
  match lines with
  | [] => []
  | first :: rest =>
    if isInterpreterLine first then (.code, .normal) :: trace lexis .normal rest
    else trace lexis .normal lines

theorem map_fst_fileTrace (lexis : Lexis) (lines : List (List Char)) :
    (fileTrace lexis lines).map (·.1) = classifyLines lexis lines := by
  cases lines with
  | nil => rfl
  | cons first rest =>
    rw [fileTrace, classifyLines]
    split_ifs <;> rfl

/-- Between the lines of a file, as its lines are classified one after the other, the scanner is
outside of strings and comments, or inside a triple-quoted string or a block comment that the
language has; the depth of the latter is at least one, and one where comments do not nest.  In
particular no plain string is open there. -/
theorem states_between_lines_carried (lexis : Lexis) (lines : List (List Char)) :
    (fileTrace lexis lines).map (·.1) = classifyLines lexis lines ∧
      ∀ entry ∈ fileTrace lexis lines, entry.2.Carried lexis := by
  refine ⟨map_fst_fileTrace lexis lines, fun entry hentry => ?_⟩
  have hnormal : State.normal.Carried lexis := trivial
  cases lines with
  | nil => simp [fileTrace] at hentry
  | cons first rest =>
    rw [fileTrace] at hentry
    split_ifs at hentry
    · rcases List.mem_cons.mp hentry with rfl | hrest
      · exact hnormal
      · exact carried_of_mem_trace hnormal hrest
    · exact carried_of_mem_trace hnormal hentry

/-- All kinds of strings, and block comments that may hold others. -/
def richLexis : Lexis :=
  { block := some Language.starred, nests := true, singleQuotes := true, tripleQuotes := true }

/-- An interpreter line, a string over two lines, comments over two lines, and a plain string that
nothing closes. -/
def openLines : List (List Char) :=
  [['#', '!', '"', '"', '"'], ['\'', '\'', '\''], ['"', '\'', '\'', '\'', '/', '*', '/', '*'],
    [' '], ['*', '/', '*', '/', '\''], ['"', '"', '"']]

/-- Of the states between the open lines, that inside the single-quoted string is one of a language
with triple quotes and single quotes, those inside the comments have depth two, and the plain string
leaves no trace. -/
theorem openLines_states_carried :
    (fileTrace richLexis openLines).map (·.2) =
      [.normal, .literal (.triple .single), .comment 2, .comment 2, .normal,
        .literal (.triple .double)] ∧
    (State.literal (.triple .single)).Carried richLexis ∧ (State.comment 2).Carried richLexis := by
  have hcarried := (states_between_lines_carried richLexis openLines).2
  exact ⟨by decide, hcarried (.code, .literal (.triple .single)) (by decide),
    hcarried (.comment, .comment 2) (by decide)⟩

end Scan

end SourceCensus
