import Mathlib.Data.List.Basic
import SourceCensus.Language.Registry
import SourceCensus.Scan.Line

/-! # The course of a scan -/

namespace SourceCensus

/-- Neither marker of a pair is empty. -/
def Fence.Solid (fence : Fence) : Prop :=
  fence.opener ≠ [] ∧ fence.closer ≠ []

namespace Lexis

def fences (lexis : Lexis) : List Fence :=
  lexis.block.toList ++ lexis.directive.toList

def markers (lexis : Lexis) : List (List Char) :=
  lexis.lineMarkers ++ lexis.fences.flatMap fun fence => [fence.opener, fence.closer]

def delimits (lexis : Lexis) : Scan.Quote → Bool
  | .double => true
  | .single => lexis.singleQuotes

def FencesSolid (lexis : Lexis) : Prop :=
  ∀ fence ∈ lexis.fences, fence.Solid

theorem FencesSolid.block {lexis : Lexis} {fence : Fence} (hsolid : lexis.FencesSolid)
    (hblock : lexis.block = some fence) : fence.Solid :=
  hsolid fence (by simp [fences, hblock])

/-- No marker that a step passes is empty.  The closer of a directive may be, as it is passed together
with the opener. -/
structure Passable (lexis : Lexis) : Prop where
  block : ∀ fence ∈ lexis.block, fence.Solid
  directive : ∀ fence ∈ lexis.directive, fence.opener ≠ []

theorem FencesSolid.passable {lexis : Lexis} (hsolid : lexis.FencesSolid) : lexis.Passable where
  block _ hblock := hsolid.block hblock
  directive fence hdirective := (hsolid fence (by simp [fences, Option.mem_def.mp hdirective])).1

def MarkersVisible (lexis : Lexis) : Prop :=
  ∀ marker ∈ lexis.markers, marker.head?.any (! Scan.isAsciiBlank ·) = true

instance (lexis : Lexis) : Decidable lexis.MarkersVisible :=
  inferInstanceAs (Decidable (∀ marker ∈ lexis.markers, _))

theorem markersVisible_of_mem_all : ∀ language ∈ Language.all, language.lexis.MarkersVisible := by
  decide

theorem mem_markers_of_mem_fences {lexis : Lexis} {fence : Fence} (h : fence ∈ lexis.fences) :
    fence.opener ∈ lexis.markers ∧ fence.closer ∈ lexis.markers := by
  constructor <;> exact List.mem_append_right _ (List.mem_flatMap.mpr ⟨fence, h, by simp⟩)

theorem MarkersVisible.fencesSolid {lexis : Lexis} (hvisible : lexis.MarkersVisible) :
    lexis.FencesSolid := by
  have hne {marker : List Char} (h : marker ∈ lexis.markers) : marker ≠ [] := by
    rintro rfl
    simpa using hvisible _ h
  intro fence hfence
  obtain ⟨hopener, hcloser⟩ := mem_markers_of_mem_fences hfence
  exact ⟨hne hopener, hne hcloser⟩

end Lexis

namespace Scan

variable {lexis : Lexis} {p q r : Progress} {text rest : List Char} {c : Char} {s : Step}
  {state : State}

theorem isBlank_of_isAsciiBlank (h : isAsciiBlank c = true) : Text.isBlank c = true := by
  simp only [isAsciiBlank, Bool.or_eq_true, beq_iff_eq] at h
  rcases h with ((((rfl | rfl) | rfl) | rfl) | rfl) | rfl <;> decide

/-- The scan gets from one place to another: from the progress `p` with `text` before it to the
progress `q` with `rest` before it. -/
inductive Reaches (lexis : Lexis) : Progress → List Char → Progress → List Char → Prop
  | refl (p : Progress) (text : List Char) : Reaches lexis p text p text
  | head {p q : Progress} {c : Char} {more rest : List Char} {s : Step}
      (hstep : step lexis p.state (c :: more) = some s) (hgo : s.stop = false)
      (hrest : Reaches lexis (p.after s) ((c :: more).drop s.advance) q rest) :
      Reaches lexis p (c :: more) q rest

theorem Reaches.trans {final : List Char} (h : Reaches lexis p text q rest)
    (h' : Reaches lexis q rest r final) : Reaches lexis p text r final := by
  induction h with
  | refl => exact h'
  | head hstep hgo _ ih => exact .head hstep hgo (ih h')

inductive StepCase (lexis : Lexis) (c : Char) (more : List Char) : State → Step → Prop
  | openTriple {quote : Quote} (hon : lexis.tripleQuotes = true)
      (hquote : lexis.delimits quote = true) (hhere : quote.tripled <+: c :: more) :
      StepCase lexis c more .normal (.ofCode 3 (some (.literal (.triple quote))))
  | passDirective {fence : Fence} (hfence : lexis.directive = some fence)
      (hhere : fence.opener <+: c :: more) :
      StepCase lexis c more .normal (.ofCode (Fence.span fence (c :: more)) none)
  | openBlock {fence : Fence} (hfence : lexis.block = some fence)
      (hhere : fence.opener <+: c :: more) :
      StepCase lexis c more .normal (.ofComment fence.opener.length (some (.comment 1)))
  | lineComment : StepCase lexis c more .normal .restIsComment
  | openPlain {quote : Quote} (hquote : lexis.delimits quote = true) (hhere : c = quote.mark) :
      StepCase lexis c more .normal (.ofCode 1 (some (.literal (.plain quote))))
  | passCharacter : StepCase lexis c more .normal ⟨1, none, ! isAsciiBlank c, false, false⟩
  | closeTriple {quote : Quote} (hhere : quote.tripled <+: c :: more) :
      StepCase lexis c more (.literal (.triple quote)) (.ofCode 3 (some .normal))
  | closePlain {quote : Quote} (hhere : c = quote.mark) :
      StepCase lexis c more (.literal (.plain quote)) (.ofCode 1 (some .normal))
  | escape {quote : Quote} (hhere : c = '\\') :
      StepCase lexis c more (.literal (.plain quote)) (.ofCode (1 + min 1 more.length) none)
  | inLiteral {delimiter : Literal} : StepCase lexis c more (.literal delimiter) (.ofCode 1 none)
  | openInner {fence : Fence} {depth : Int} (hfence : lexis.block = some fence)
      (hnests : lexis.nests = true) (hhere : fence.opener <+: c :: more) :
      StepCase lexis c more (.comment depth)
        (.ofComment fence.opener.length (some (.comment (depth + 1))))
  | closeBlock {fence : Fence} {depth : Int} (hfence : lexis.block = some fence)
      (hhere : fence.closer <+: c :: more) :
      StepCase lexis c more (.comment depth)
        (.ofComment fence.closer.length (some (afterCloser depth)))
  | inComment {depth : Int} : StepCase lexis c more (.comment depth) (.ofComment 1 none)

theorem stepCase_of_stepNormal (h : stepNormal lexis (c :: text) = some s) :
    StepCase lexis c text .normal s := by
  simp only [stepNormal, Option.orElse_eq_orElse, Option.orElse_eq_or, Option.or_eq_some_iff] at h
  rcases h with h | ⟨-, h | ⟨-, h | ⟨-, h | ⟨-, h | ⟨-, h⟩⟩⟩⟩⟩
  · unfold openTriple at h
    split_ifs at h with hoff hdouble hsingle
    · cases h
      exact .openTriple (by simpa using hoff) rfl (List.isPrefixOf_iff_prefix.mp hdouble)
    · cases h
      rw [Bool.and_eq_true] at hsingle
      exact .openTriple (by simpa using hoff) hsingle.1 (List.isPrefixOf_iff_prefix.mp hsingle.2)
  · unfold passDirective at h
    split at h
    · rename_i fence hfence
      split_ifs at h with hhere
      cases h
      exact .passDirective hfence (List.isPrefixOf_iff_prefix.mp hhere)
    · cases h
  · unfold openBlock at h
    split at h
    · rename_i fence hfence
      split_ifs at h with hhere
      cases h
      exact .openBlock hfence (List.isPrefixOf_iff_prefix.mp hhere)
    · cases h
  · unfold lineComment at h
    split_ifs at h
    cases h
    exact .lineComment
  · simp only [openPlain] at h
    split_ifs at h with hdouble hsingle
    · cases h
      exact .openPlain (show lexis.delimits .double = true from rfl) hdouble
    · cases h
      rw [Bool.and_eq_true, decide_eq_true_eq] at hsingle
      exact .openPlain (show lexis.delimits .single = true from hsingle.2) hsingle.1
  · cases h
    exact .passCharacter

theorem stepCase_of_stepLiteral {delimiter : Literal}
    (h : stepLiteral delimiter (c :: text) = some s) :
    StepCase lexis c text (.literal delimiter) s := by
  cases delimiter with
  | triple quote =>
    simp only [stepLiteral] at h
    split_ifs at h with hhere
    · cases h
      exact .closeTriple (List.isPrefixOf_iff_prefix.mp hhere)
    · cases h
      exact .inLiteral
  | plain quote =>
    simp only [stepLiteral] at h
    split_ifs at h with hbackslash hquote
    · cases h
      exact .escape hbackslash
    · cases h
      exact .closePlain hquote
    · cases h
      exact .inLiteral

theorem stepCase_stepComment (depth : Int) :
    StepCase lexis c text (.comment depth) (stepComment lexis depth (c :: text)) := by
  unfold stepComment
  split
  · exact .inComment
  · rename_i fence hfence
    split_ifs with hopener hcloser
    · rw [Bool.and_eq_true] at hopener
      exact .openInner hfence hopener.1 (List.isPrefixOf_iff_prefix.mp hopener.2)
    · exact .closeBlock hfence (List.isPrefixOf_iff_prefix.mp hcloser)
    · exact .inComment

theorem stepCase_of_step (h : step lexis state (c :: text) = some s) :
    StepCase lexis c text state s := by
  cases state with
  | normal => exact stepCase_of_stepNormal h
  | literal delimiter => exact stepCase_of_stepLiteral h
  | comment depth =>
    cases h
    exact stepCase_stepComment depth

theorem Fence.span_pos {fence : Fence} (hopener : fence.opener ≠ []) (c : Char) (more : List Char) :
    0 < Fence.span fence (c :: more) := by
  have hpos := List.length_pos_of_ne_nil hopener
  unfold Fence.span
  split
  · omega
  · exact Nat.succ_pos _

/-- A step that does not end the scan passes a character. -/
theorem advance_pos (hpass : lexis.Passable) (h : step lexis state (c :: text) = some s)
    (hgo : s.stop = false) : 0 < s.advance := by
  cases stepCase_of_step h with
  | openTriple | closeTriple => exact Nat.succ_pos 2
  | passDirective hfence => exact Fence.span_pos (hpass.directive _ hfence) c text
  | openBlock hfence => exact List.length_pos_of_ne_nil (hpass.block _ hfence).1
  | lineComment => cases hgo
  | openPlain | passCharacter | closePlain | inLiteral | inComment => exact Nat.one_pos
  | escape => exact Nat.add_pos_left Nat.one_pos _
  | openInner hfence => exact List.length_pos_of_ne_nil (hpass.block _ hfence).1
  | closeBlock hfence => exact List.length_pos_of_ne_nil (hpass.block _ hfence).2

/-- The progress at the end of the scan of a text. -/
def scanned (lexis : Lexis) (p : Progress) (text : List Char) : Progress :=
  scan lexis text.length p text

/-- The length of a text is fuel enough. -/
theorem scan_eq_scanned (hsolid : lexis.FencesSolid) {fuel : Nat} (hfuel : text.length ≤ fuel) :
    scan lexis fuel p text = scanned lexis p text := by
  have hsame (fuel fuel' : Nat) (p : Progress) (text : List Char) (h : text.length ≤ fuel)
      (h' : text.length ≤ fuel') : scan lexis fuel p text = scan lexis fuel' p text := by
    induction fuel generalizing fuel' p text with
    | zero =>
      obtain rfl := List.eq_nil_of_length_eq_zero (Nat.le_zero.mp h)
      cases fuel' <;> rfl
    | succ fuel ih =>
      cases text with
      | nil => cases fuel' <;> rfl
      | cons c more =>
        obtain ⟨fuel', rfl⟩ := Nat.exists_eq_succ_of_ne_zero (by simp at h'; omega : fuel' ≠ 0)
        obtain ⟨s, hs⟩ := Option.isSome_iff_exists.mp (step_isSome lexis p.state c more)
        simp only [scan, hs]
        split_ifs with hstop
        · rfl
        · have hpos := advance_pos hsolid.passable hs (by simpa using hstop)
          simp only [List.length_cons] at h h'
          exact ih _ _ _ (by simp only [List.length_drop, List.length_cons]; omega)
            (by simp only [List.length_drop, List.length_cons]; omega)
  exact hsame _ _ _ _ hfuel (Nat.le_refl _)

theorem scanned_of_step (hsolid : lexis.FencesSolid)
    (hstep : step lexis p.state (c :: text) = some s)
    (hgo : s.stop = false) :
    scanned lexis p (c :: text) = scanned lexis (p.after s) ((c :: text).drop s.advance) := by
  have hpos := advance_pos hsolid.passable hstep hgo
  have hfuel : ((c :: text).drop s.advance).length ≤ text.length := by
    simp only [List.length_drop, List.length_cons]
    omega
  rw [← scan_eq_scanned hsolid hfuel, scanned, List.length_cons, scan]
  simp [hstep, hgo]

/-- A scan gives the same from every place that it passes. -/
theorem Reaches.scanned_eq (hsolid : lexis.FencesSolid) (h : Reaches lexis p text q rest) :
    scanned lexis p text = scanned lexis q rest := by
  induction h with
  | refl => rfl
  | head hstep hgo _ ih => exact (scanned_of_step hsolid hstep hgo).trans ih

theorem length_le_stepBound (state : State) (line : List Char) :
    line.length ≤ stepBound state line := by
  simp only [stepBound]
  omega

/-- A line that is not blank, or starts inside a comment, is what its scan has seen of it. -/
theorem classifyLine_eq_scanned (hsolid : lexis.FencesSolid) (state : State) (line : List Char)
    (h : Text.isBlankText line = false ∨ state.inComment = true) :
    classifyLine lexis state line = ((scanned lexis (.atStart state) line).kind,
      (scanned lexis (.atStart state) line).state.atLineEnd) := by
  have hblank : (Text.isBlankText line && ! state.inComment) = false := by
    rcases h with h | h <;> simp [h]
  rw [classifyLine, hblank]
  simp only [Bool.false_eq_true, if_false, scan_eq_scanned hsolid (length_le_stepBound state line)]

theorem isPrefixOf_blank_cons {blank : Char → Bool} {marker more : List Char}
    (hmarker : marker.head?.any (! blank ·) = true)
    (hc : blank c = true) : marker.isPrefixOf (c :: more) = false := by
  cases marker with
  | nil => simp at hmarker
  | cons first marker =>
    have hne : first ≠ c := by
      rintro rfl
      simp [hc] at hmarker
    simp [List.isPrefixOf, hne]

/-- Where no marker stands, only quotes can open something. -/
theorem stepNormal_of_no_marker (h : ∀ marker ∈ lexis.markers, marker.isPrefixOf text = false) :
    stepNormal lexis text =
      (openTriple lexis text).or ((openPlain lexis text).or (passCharacter text)) := by
  have hopener (fence : Fence) (hfence : fence ∈ lexis.fences) :
      fence.opener.isPrefixOf text = false := h _ (Lexis.mem_markers_of_mem_fences hfence).1
  have hdirective : passDirective lexis text = none := by
    unfold passDirective
    split
    · rename_i fence hfence
      simp [hopener fence (by simp [Lexis.fences, hfence])]
    · rfl
  have hblock : openBlock lexis text = none := by
    unfold openBlock
    split
    · rename_i fence hfence
      simp [hopener fence (by simp [Lexis.fences, hfence])]
    · rfl
  have hline : lineComment lexis text = none := by
    have hmarks : lexis.lineMarkers.any (marksComment lexis text) = false := by
      rw [List.any_eq_false]
      intro marker hmarker
      simp [marksComment, h _ (List.mem_append_left _ hmarker)]
    simp [lineComment, hmarks]
  simp [stepNormal, hdirective, hblock, hline]

theorem tripled_isPrefixOf_cons_of_ne {quote : Quote} (hc : c ≠ quote.mark) (more : List Char) :
    quote.tripled.isPrefixOf (c :: more) = false := by
  simp [Quote.tripled, List.isPrefixOf, hc.symm]

/-- A character at which no marker stands and that is no quote is passed. -/
theorem stepNormal_cons_of_no_opening {more : List Char}
    (hmarkers : ∀ marker ∈ lexis.markers, marker.isPrefixOf (c :: more) = false)
    (hquotes : ∀ quote : Quote, c ≠ quote.mark) :
    stepNormal lexis (c :: more) = some ⟨1, none, ! isAsciiBlank c, false, false⟩ := by
  have htriple : openTriple lexis (c :: more) = none := by
    simp [openTriple, tripled_isPrefixOf_cons_of_ne (hquotes _)]
  have hplain : openPlain lexis (c :: more) = none := by
    simp [openPlain, hquotes .double, hquotes .single]
  rw [stepNormal_of_no_marker hmarkers, htriple, hplain]
  rfl

theorem ne_mark_of_isBlank (hc : Text.isBlank c = true) (quote : Quote) : c ≠ quote.mark := by
  rintro rfl
  cases quote <;> exact absurd hc (by decide)

/-- Where the markers are visible, nothing opens at a blank. -/
theorem stepNormal_blank_cons (hvisible : lexis.MarkersVisible) (hc : isAsciiBlank c = true)
    (more : List Char) : stepNormal lexis (c :: more) = some ⟨1, none, false, false, false⟩ := by
  rw [stepNormal_cons_of_no_opening
    (fun marker hmarker => isPrefixOf_blank_cons (hvisible marker hmarker) hc)
    (ne_mark_of_isBlank (isBlank_of_isAsciiBlank hc)), hc]
  rfl

/-- Blanks outside of strings and comments leave everything as it is. -/
theorem scanned_blank (hvisible : lexis.MarkersVisible) (hp : p.state = .normal)
    (htext : ∀ c ∈ text, isAsciiBlank c = true) : scanned lexis p text = p := by
  induction text with
  | nil => rfl
  | cons c more ih =>
    obtain ⟨hc, hmore⟩ := List.forall_mem_cons.mp htext
    have hstep : step lexis p.state (c :: more) = some ⟨1, none, false, false, false⟩ := by
      rw [hp]
      exact stepNormal_blank_cons hvisible hc more
    have hafter : p.after ⟨1, none, false, false, false⟩ = p := by
      simp [Progress.after]
    rw [scanned_of_step hvisible.fencesSolid hstep rfl, hafter]
    exact ih hmore

/-- The state that successive lines leave to the next one. -/
def stateAfter (lexis : Lexis) (state : State) (lines : List (List Char)) : State :=
  lines.foldl (fun state line => (classifyLine lexis state line).2) state

@[simp] theorem stateAfter_cons (lexis : Lexis) (state : State) (line : List Char)
    (lines : List (List Char)) : stateAfter lexis state (line :: lines) =
      stateAfter lexis (classifyLine lexis state line).2 lines := rfl

theorem trace_append (lexis : Lexis) (state : State) (before after : List (List Char)) :
    trace lexis state (before ++ after) =
      trace lexis state before ++ trace lexis (stateAfter lexis state before) after := by
  induction before generalizing state with
  | nil => rfl
  | cons line before ih =>
    simp only [List.cons_append, trace_cons, ih, stateAfter_cons]

theorem trace_getElem?_length (lexis : Lexis) (state : State) (before : List (List Char))
    (line : List Char) (after : List (List Char)) :
    (trace lexis state (before ++ line :: after))[before.length]? =
      some (classifyLine lexis (stateAfter lexis state before) line) := by
  rw [trace_append, List.getElem?_append_right (Nat.le_of_eq (length_trace ..)), length_trace, Nat.sub_self]
  rfl

end Scan

end SourceCensus
