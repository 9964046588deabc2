import Mathlib.Data.Nat.Find
import SourceCensus.Proofs.Scan.BlankLines

/-! # Strings between three quotes -/

namespace SourceCensus

/-- Every marker starts with a character that is not blank, neither to the scanner nor to trimming. -/
def Lexis.MarkersNotBlank (lexis : Lexis) : Prop :=
  ∀ marker ∈ lexis.markers, marker.head?.any (! Text.isBlank ·) = true

instance (lexis : Lexis) : Decidable lexis.MarkersNotBlank :=
  inferInstanceAs (Decidable (∀ marker ∈ lexis.markers, _))

theorem Lexis.markersNotBlank_of_mem_all :
    ∀ language ∈ Language.all, language.lexis.MarkersNotBlank := by
  decide

theorem Lexis.MarkersNotBlank.markersVisible {lexis : Lexis} (h : lexis.MarkersNotBlank) :
    lexis.MarkersVisible := by
  intro marker hmarker
  have hhead := h marker hmarker
  cases marker with
  | nil => cases hhead
  | cons c rest =>
    simp only [List.head?_cons, Option.any_some, Bool.not_eq_true'] at hhead ⊢
    exact Bool.eq_false_iff.mpr fun hc => by simp [Scan.isBlank_of_isAsciiBlank hc] at hhead

/-- The first place where a pattern stands in a text. -/
def Text.StandsFirstAt (pattern text : List Char) (position : Nat) : Prop :=
  pattern <+: text.drop position ∧ ∀ i < position, ¬ pattern <+: text.drop i

theorem Text.infix_of_prefix_drop {pattern text : List Char} {i : Nat} (h : pattern <+: text.drop i) :
    pattern <:+: text :=
  h.isInfix.trans (List.drop_suffix i text).isInfix

theorem Text.infix_iff_exists_standsFirstAt {pattern text : List Char} :
    pattern <:+: text ↔ ∃ position, Text.StandsFirstAt pattern text position := by
  constructor
  · rintro ⟨front, back, rfl⟩
    have hsome : ∃ i, pattern <+: (front ++ pattern ++ back).drop i :=
      ⟨front.length, by simp⟩
    exact ⟨Nat.find hsome, Nat.find_spec hsome, fun _ => Nat.find_min hsome⟩
  · rintro ⟨position, hhere, -⟩
    exact Text.infix_of_prefix_drop hhere

namespace Scan

variable {lexis : Lexis} {quote : Quote} {p q : Progress} {c : Char} {text line : List Char}
  {lines before after : List (List Char)} {position : Nat}

section Inside

theorem step_inside_triple (h : ¬ quote.tripled <+: c :: text) :
    step lexis (.literal (.triple quote)) (c :: text) = some (.ofCode 1 none) := by
  have hprefix : quote.tripled.isPrefixOf (c :: text) = false := by
    rwa [Bool.eq_false_iff, Ne, List.isPrefixOf_iff_prefix]
  rw [step, stepLiteral, hprefix]
  rfl

theorem step_closing_triple (h : quote.tripled <+: c :: text) :
    step lexis (.literal (.triple quote)) (c :: text) = some (.ofCode 3 (some .normal)) := by
  rw [step, stepLiteral, if_pos (List.isPrefixOf_iff_prefix.mpr h)]

/-- The scan passes every character before which the three quotes do not stand. -/
theorem reaches_inside (comment : Bool) (hbefore : ∀ i < position, ¬ quote.tripled <+: text.drop i)
    (hposition : position ≤ text.length) :
    Reaches lexis ⟨.literal (.triple quote), true, comment⟩ text
      ⟨.literal (.triple quote), true, comment⟩ (text.drop position) := by
  induction position generalizing text with
  | zero => exact .refl _ text
  | succ position ih =>
    cases text with
    | nil => cases hposition
    | cons c text =>
      refine .head (step_inside_triple (hbefore 0 (Nat.succ_pos position))) rfl ?_
      have hmore := ih (fun i hi => hbefore (i + 1) (Nat.succ_lt_succ hi))
        (Nat.le_of_succ_le_succ hposition)
      simpa [Progress.after, Step.ofCode] using hmore

/-- A line without the three quotes is code unless it looks blank, and the string goes on. -/
theorem classifyLine_of_not_infix (hsolid : lexis.FencesSolid) (h : ¬ quote.tripled <:+: line) :
    classifyLine lexis (.literal (.triple quote)) line =
      (if Text.trim line = [] then .blank else .code, .literal (.triple quote)) := by
  by_cases hblank : Text.isBlankText line = true
  · rw [if_pos ((Text.trim_eq_nil_iff line).mpr hblank), classifyLine, hblank]
    rfl
  · have hreaches : Reaches lexis (.atStart (.literal (.triple quote))) line
        ⟨.literal (.triple quote), true, false⟩ [] := by
      rw [← List.drop_length (l := line)]
      exact reaches_inside false (fun _ _ => mt Text.infix_of_prefix_drop h) (Nat.le_refl _)
    rw [if_neg (mt (Text.trim_eq_nil_iff line).mp hblank),
      classifyLine_eq_scanned hsolid _ _ (.inl (Bool.eq_false_iff.mpr hblank)),
      hreaches.scanned_eq hsolid]
    rfl

theorem trace_of_not_infix (hsolid : lexis.FencesSolid)
    (h : ∀ line ∈ lines, ¬ quote.tripled <:+: line) :
    trace lexis (.literal (.triple quote)) lines =
        lines.map (fun line =>
          (if Text.trim line = [] then .blank else .code, .literal (.triple quote))) ∧
      stateAfter lexis (.literal (.triple quote)) lines = .literal (.triple quote) := by
  induction lines with
  | nil => exact ⟨rfl, rfl⟩
  | cons line lines ih =>
    obtain ⟨hline, hlines⟩ := List.forall_mem_cons.mp h
    obtain ⟨htrace, hstate⟩ := ih hlines
    rw [trace_cons, stateAfter_cons, classifyLine_of_not_infix hsolid hline]
    exact ⟨congrArg _ htrace, hstate⟩

end Inside

section Behind

/-- The state after a scan does not depend on what was seen before it. -/
theorem state_scan_congr (fuel : Nat) (text : List Char) (h : p.state = q.state) :
    (scan lexis fuel p text).state = (scan lexis fuel q text).state := by
  induction fuel generalizing p q text with
  | zero => exact h
  | succ fuel ih =>
    cases text with
    | nil => exact h
    | cons c text =>
      rw [scan, scan, h]
      cases step lexis q.state (c :: text) with
      | none => exact h
      | some s =>
        have hafter : (p.after s).state = (q.after s).state := by
          simp only [Progress.after, h]
        simp only
        split_ifs
        · exact hafter
        · exact ih _ hafter

/-- Outside of strings and comments nothing opens on a text that looks blank. -/
theorem state_scanned_of_isBlankText (hmarkers : lexis.MarkersNotBlank) (hp : p.state = .normal)
    (htext : Text.isBlankText text = true) : (scanned lexis p text).state = .normal := by
  induction text generalizing p with
  | nil => exact hp
  | cons c text ih =>
    rw [Text.isBlankText_cons, Bool.and_eq_true] at htext
    have hstep : step lexis p.state (c :: text) = some ⟨1, none, ! isAsciiBlank c, false, false⟩ := by
      rw [hp]
      exact stepNormal_cons_of_no_opening
        (fun marker hmarker => isPrefixOf_blank_cons (hmarkers marker hmarker) htext.1)
        (ne_mark_of_isBlank htext.1)
    rw [scanned_of_step hmarkers.markersVisible.fencesSolid hstep rfl]
    exact ih hp htext.2

/-- What a line leaves is what a scan of it leaves, also where it looks blank and is not scanned. -/
theorem state_scanned_eq (hmarkers : lexis.MarkersNotBlank) (hp : p.state = .normal)
    (text : List Char) :
    (scanned lexis p text).state.atLineEnd = (classifyLine lexis .normal text).2 := by
  cases hblank : Text.isBlankText text with
  | true =>
    rw [state_scanned_of_isBlankText hmarkers hp hblank, classifyLine, hblank]
    rfl
  | false =>
    rw [classifyLine_eq_scanned hmarkers.markersVisible.fencesSolid _ _ (.inl hblank)]
    exact congrArg State.atLineEnd (state_scan_congr _ _ hp)

theorem isBlankText_of_prefix_drop (h : quote.tripled <+: line.drop position) :
    Text.isBlankText line = false := by
  have hmem : quote.mark ∈ line := (Text.infix_of_prefix_drop h).subset List.mem_cons_self
  rw [Bool.eq_false_iff]
  intro hblank
  exact ne_mark_of_isBlank (List.all_eq_true.mp hblank _ hmem) quote rfl

/-- The line on which the three quotes stand is code, and leaves what the text behind them would leave
as a line. -/
theorem classifyLine_of_standsFirstAt (hmarkers : lexis.MarkersNotBlank)
    (h : Text.StandsFirstAt quote.tripled line position) :
    classifyLine lexis (.literal (.triple quote)) line =
      (.code, (classifyLine lexis .normal (line.drop (position + 3))).2) := by
  have hsolid := hmarkers.markersVisible.fencesSolid
  obtain ⟨hhere, hbefore⟩ := h
  have hposition : position ≤ line.length := by
    by_contra hlt
    rw [List.drop_eq_nil_of_le (by omega)] at hhere
    exact absurd (List.prefix_nil.mp hhere) (by simp [Quote.tripled])
  have hreaches : Reaches lexis (.atStart (.literal (.triple quote))) line ⟨.normal, true, false⟩
      (line.drop (position + 3)) := by
    refine (reaches_inside false hbefore hposition).trans ?_
    rw [← List.drop_drop]
    obtain ⟨rest, hrest⟩ := hhere
    rw [← hrest]
    exact .head (step_closing_triple (List.prefix_append quote.tripled rest)) rfl (.refl _ _)
  have hcode : (scanned lexis ⟨.normal, true, false⟩ (line.drop (position + 3))).code = true :=
    code_scan _ _ rfl
  rw [classifyLine_eq_scanned hsolid _ _ (.inl (isBlankText_of_prefix_drop hhere)),
    hreaches.scanned_eq hsolid, Progress.kind, if_pos hcode, state_scanned_eq hmarkers rfl]

end Behind

section Lines

/-- A string between three quotes ends exactly at the first three quotes, in every language whose markers
do not start with a blank, as those of all known languages do not.  Lines before that are code, unless
they look blank, whatever else stands on them.  The line with the three quotes is code, and leaves to
the lines after it what the text behind the quotes would leave as a line of its own. -/
theorem triple_quotes_end_string :
    (∀ language ∈ Language.all, language.lexis.MarkersNotBlank) ∧
    ∀ lexis : Lexis, lexis.MarkersNotBlank → ∀ (quote : Quote) (before : List (List Char)),
      (∀ line ∈ before, ¬ quote.tripled <:+: line) →
      let inside := State.literal (.triple quote)
      let passed := before.map fun line =>
        (if Text.trim line = [] then LineKind.blank else .code, inside)
      trace lexis inside before = passed ∧
      ∀ line after,
        (quote.tripled <:+: line ↔ ∃ position, Text.StandsFirstAt quote.tripled line position) ∧
        ∀ position, Text.StandsFirstAt quote.tripled line position →
          let next := (classifyLine lexis .normal (line.drop (position + 3))).2
          trace lexis inside (before ++ line :: after) =
            passed ++ (.code, next) :: trace lexis next after := by
  refine ⟨Lexis.markersNotBlank_of_mem_all, fun lexis hmarkers quote before hbefore => ?_⟩
  intro inside passed
  obtain ⟨hpassed, hstate⟩ := trace_of_not_infix hmarkers.markersVisible.fencesSolid hbefore
  refine ⟨hpassed, fun line after => ⟨Text.infix_iff_exists_standsFirstAt, fun position hfirst => ?_⟩⟩
  rw [trace_append, hpassed, hstate, trace_cons, classifyLine_of_standsFirstAt hmarkers hfirst]

/-- Two lines of a string between three apostrophes: two of them behind a backslash with the opener of
a comment, and a blank that the scanner does not know. -/
def stringLines : List (List Char) :=
  [['\\', '\'', '\'', '"', '/', '*'], ['\u00a0']]

/-- A backslash, three apostrophes, the opener of a comment and another apostrophe. -/
def lastStringLine : List Char :=
  ['\\', '\'', '\'', '\'', '/', '*', '\'']

/-- The backslash does not keep the three apostrophes from ending the string, and the comment that opens
behind them goes on in the next line. -/
theorem stringLines_end :
    richLexis.MarkersNotBlank ∧ (∀ line ∈ stringLines, ¬ Quote.single.tripled <:+: line) ∧
    Text.StandsFirstAt Quote.single.tripled lastStringLine 1 ∧
    trace richLexis (.literal (.triple .single)) (stringLines ++ [lastStringLine, ['*', '/']]) =
      [(.code, .literal (.triple .single)), (.blank, .literal (.triple .single)),
        (.code, .comment 1), (.comment, .normal)] := by
  have hmarkers : richLexis.MarkersNotBlank := by decide
  have hbefore : ∀ line ∈ stringLines, ¬ Quote.single.tripled <:+: line := by decide
  have hfirst : Text.StandsFirstAt Quote.single.tripled lastStringLine 1 := by
    unfold Text.StandsFirstAt
    decide
  refine ⟨hmarkers, hbefore, hfirst, ?_⟩
  exact ((triple_quotes_end_string.2 richLexis hmarkers .single stringLines hbefore).2 lastStringLine
    [['*', '/']]).2 1 hfirst

end Lines

end Scan

end SourceCensus
