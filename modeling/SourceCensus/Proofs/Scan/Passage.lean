import SourceCensus.Proofs.Scan.LineStates
import SourceCensus.Scan.Position

/-! # Getting through a line -/

namespace SourceCensus

/-- An occurrence ends within the text. -/
theorem Text.find?_add_length_le {pattern text : List Char} {i : Nat}
    (h : Text.find? pattern text = some i) : i + pattern.length ≤ text.length := by
  induction text generalizing i with
  | nil =>
    rw [Text.find?_nil] at h
    split_ifs at h with hempty
    cases h
    simp [List.isEmpty_iff.mp hempty]
  | cons c rest ih =>
    rw [Text.find?] at h
    split_ifs at h with hhere
    · cases h
      simpa using (List.isPrefixOf_iff_prefix.mp hhere).length_le
    · obtain ⟨j, hj, rfl⟩ := Option.map_eq_some_iff.mp h
      have hle := ih hj
      rw [List.length_cons]
      omega

namespace Scan

variable {lexis : Lexis} {p q r : Progress} {text line : List Char} {c : Char} {s : Step}
  {state : State} {pos : Nat} {positions positions' : List Nat}

/-- The loop over a line, from a position and the progress made before it on to the end; `positions` are
those that it comes to.  A loop that went on for ever, or that looked for a character outside of the
line, would end nowhere. -/
inductive Loops (lexis : Lexis) (line : List Char) : Progress → Nat → List Nat → Progress → Prop
  | finish {p : Progress} {pos : Nat} (hend : line.length ≤ pos) : Loops lexis line p pos [pos] p
  | halt {p : Progress} {pos : Nat} {s : Step} (hinside : pos < line.length)
      (hstep : stepBack lexis p.state line pos = some s) (hstop : s.stop = true) :
      Loops lexis line p pos [pos, pos + s.advance] (p.after s)
  | go {p q : Progress} {pos : Nat} {positions : List Nat} {s : Step} (hinside : pos < line.length)
      (hstep : stepBack lexis p.state line pos = some s) (hgo : s.stop = false)
      (hrest : Loops lexis line (p.after s) (pos + s.advance) positions q) :
      Loops lexis line p pos (pos :: positions) q

/-- The scanner gets through a line, whatever its state is at the start. -/
structure GetsThrough (lexis : Lexis) (line : List Char) : Prop where
  /-- A step finds the characters that it looks for, and stops or passes some of those that are left. -/
  passes : ∀ state, ∀ pos < line.length, ∃ s, step lexis state (line.drop pos) = some s ∧
    stepBack lexis state line pos = some s ∧
    (s.stop = true ∨ 1 ≤ s.advance ∧ s.advance ≤ line.length - pos)
  ends : ∀ state, ∃ positions q, Loops lexis line (.atStart state) 0 positions q
  /-- The loop takes no more steps than there are characters and stays inside the line, and what it has
  seen when it ends decides on the line. -/
  final : ∀ state positions q, Loops lexis line (.atStart state) 0 positions q →
    positions.length ≤ line.length + 1 ∧ (∀ pos ∈ positions, pos ≤ line.length) ∧
    classifyLine lexis state line = if Text.isBlankText line && ! state.inComment then (.blank, state)
      else (q.kind, q.state.atLineEnd)

section Advance

theorem Fence.span_le {fence : Fence} (h : fence.opener <+: text) :
    Fence.span fence text ≤ text.length := by
  unfold Fence.span
  split
  · rename_i offset hfind
    have hle := Text.find?_add_length_le hfind
    have hopener := h.length_le
    rw [List.length_drop] at hle
    omega
  · exact Nat.le_refl _

/-- No step goes beyond the end of the text, whatever the markers are. -/
theorem advance_le (h : step lexis state (c :: text) = some s) :
    s.advance ≤ (c :: text).length := by
  cases stepCase_of_step h with
  | openTriple _ _ hhere => exact hhere.length_le
  | closeTriple hhere => exact hhere.length_le
  | passDirective _ hhere => exact Fence.span_le hhere
  | openBlock _ hhere => exact hhere.length_le
  | openInner _ _ hhere => exact hhere.length_le
  | closeBlock _ hhere => exact hhere.length_le
  | lineComment => exact Nat.zero_le _
  | openPlain | passCharacter | closePlain | inLiteral | inComment => exact Nat.le_add_left 1 _
  | escape =>
    simp only [Step.ofCode, List.length_cons]
    omega

end Advance

section LookUps

theorem findFrom?_of_le (pattern : List Char) (h : pos ≤ line.length) :
    findFrom? pattern line pos = (Text.find? pattern (line.drop pos)).map (pos + ·) := by
  have hinside : ¬ (line.length : Int) < pos := by omega
  rw [findFrom?, if_neg hinside, Sequence.clamp_natCast h]

theorem Fence.stop_eq {fence : Fence} (h : pos ≤ line.length) (hhere : fence.opener <+: line.drop pos) :
    Fence.stop fence line pos = pos + Fence.span fence (line.drop pos) := by
  have hopener := hhere.length_le
  rw [List.length_drop] at hopener
  have hle : pos + fence.opener.length ≤ line.length := by omega
  rw [Fence.stop, Fence.span, ← Int.natCast_add, findFrom?_of_le fence.closer hle, List.drop_drop]
  cases Text.find? fence.closer (line.drop (pos + fence.opener.length)) with
  | none =>
    simp only [Option.map_none, List.length_drop]
    omega
  | some offset =>
    simp only [Option.map_some]
    omega

theorem passDirectiveAt_eq (lexis : Lexis) (h : pos ≤ line.length) :
    passDirectiveAt lexis line (line.drop pos) pos = passDirective lexis (line.drop pos) := by
  rw [passDirectiveAt, passDirective]
  cases lexis.directive with
  | none => rfl
  | some fence =>
    refine ite_congr rfl (fun hhere => ?_) fun _ => rfl
    have hspan : ((Fence.stop fence line pos : Int) - pos).toNat =
        Fence.span fence (line.drop pos) := by
      rw [Fence.stop_eq h (List.isPrefixOf_iff_prefix.mp hhere)]
      omega
    rw [hspan]

theorem marksCommentAt?_eq (lexis : Lexis) (line : List Char) (pos : Nat)
    (markers : List (List Char)) : marksCommentAt? lexis line (line.drop pos) pos markers =
      some (markers.any (marksComment lexis (line.drop pos))) := by
  induction markers with
  | nil => rfl
  | cons marker markers ih =>
    simp only [marksCommentAt?, List.any_cons, marksComment, ih, ← Int.natCast_add, Sequence.item?_natCast,
      List.drop_drop, Int.ofNat_le]
    by_cases hhere : marker.isPrefixOf (line.drop pos) = true
    · rw [if_pos hhere, hhere, Bool.true_and]
      cases hbehind : line.drop (pos + marker.length) with
      | nil => simp [List.drop_eq_nil_iff.mp hbehind]
      | cons d behind =>
        have hinside : ¬ line.length ≤ pos + marker.length := by
          intro hend
          simp [List.drop_eq_nil_iff.mpr hend] at hbehind
        cases hfree : lexis.operatorTails with
        | nil => simp
        | cons tail tails =>
          simp only [List.isEmpty_cons, Bool.false_or, decide_eq_true_eq, if_neg hinside,
            List.head?_cons, Option.bind_some]
          cases (tail :: tails).contains d <;> simp
    · rw [if_neg hhere, Bool.eq_false_iff.mpr hhere, Bool.false_and, Bool.false_or]

theorem stepNormalBack_of_lt (lexis : Lexis) (h : pos < line.length) :
    stepNormalBack lexis line (line.drop pos) pos = stepNormal lexis (line.drop pos) := by
  obtain ⟨c, hitem⟩ : ∃ c, Sequence.item? line pos = some c := by
    rw [Sequence.item?_natCast, List.head?_drop, List.getElem?_eq_getElem h]
    exact ⟨_, rfl⟩
  rw [stepNormalBack, stepNormal, passDirectiveAt_eq lexis (Nat.le_of_lt h), marksCommentAt?_eq,
    lineComment, hitem, Option.bind_some, Option.bind_some]
  split_ifs <;> rfl

theorem stepLiteralBack_of_lt (delimiter : Literal) (h : pos < line.length) :
    stepLiteralBack delimiter line (line.drop pos) pos = stepLiteral delimiter (line.drop pos) := by
  cases delimiter with
  | triple quote => rfl
  | plain quote =>
    rw [stepLiteralBack, Sequence.item?_natCast, List.drop_eq_getElem_cons h, List.head?_cons,
      Option.bind_some, stepLiteral]
    have hescape : (min (pos + 2 : Int) line.length - pos).toNat =
        1 + min 1 (line.drop (pos + 1)).length := by
      rw [List.length_drop]
      omega
    rw [hescape]
    split_ifs <;> rfl

/-- Inside the line every character that a step looks for is found. -/
theorem stepBack_of_lt (lexis : Lexis) (state : State) (h : pos < line.length) :
    stepBack lexis state line pos = step lexis state (line.drop pos) := by
  have hclamp := Sequence.clamp_natCast (Nat.le_of_lt h)
  cases state with
  | normal => rw [stepBack, hclamp, stepNormalBack_of_lt lexis h, step]
  | literal delimiter => rw [stepBack, hclamp, stepLiteralBack_of_lt delimiter h, step]
  | comment depth => rw [stepBack, hclamp, step]

end LookUps

section Steps

theorem advance_le_of_stepBack (hinside : pos < line.length)
    (hstep : stepBack lexis state line pos = some s) : pos + s.advance ≤ line.length := by
  rw [stepBack_of_lt lexis state hinside, List.drop_eq_getElem_cons hinside] at hstep
  have hle := advance_le hstep
  rw [← List.drop_eq_getElem_cons hinside, List.length_drop] at hle
  omega

theorem advance_pos_of_stepBack (hpass : lexis.Passable) (hinside : pos < line.length)
    (hstep : stepBack lexis state line pos = some s) (hgo : s.stop = false) : 0 < s.advance := by
  rw [stepBack_of_lt lexis state hinside, List.drop_eq_getElem_cons hinside] at hstep
  exact advance_pos hpass hstep hgo

theorem exists_stepBack (lexis : Lexis) (state : State) (hinside : pos < line.length) :
    ∃ s, stepBack lexis state line pos = some s := by
  rw [stepBack_of_lt lexis state hinside, List.drop_eq_getElem_cons hinside]
  exact Option.isSome_iff_exists.mp (step_isSome lexis state _ _)

theorem scan_of_stepBack {fuel : Nat} (hinside : pos < line.length)
    (hstep : stepBack lexis p.state line pos = some s) :
    scan lexis (fuel + 1) p (line.drop pos) =
      if s.stop then p.after s else scan lexis fuel (p.after s) (line.drop (pos + s.advance)) := by
  rw [stepBack_of_lt lexis p.state hinside, List.drop_eq_getElem_cons hinside] at hstep
  rw [List.drop_eq_getElem_cons hinside, scan, hstep, ← List.drop_eq_getElem_cons hinside]
  simp only [List.drop_drop]

end Steps

namespace Loops

/-- The loop ends in one way only. -/
theorem unique (h : Loops lexis line p pos positions q) (h' : Loops lexis line p pos positions' r) :
    q = r := by
  induction h generalizing positions' with
  | finish hend =>
    cases h' with
    | finish => rfl
    | halt hinside | go hinside => exact absurd hinside (Nat.not_lt.mpr hend)
  | halt hinside hstep hstop =>
    cases h' with
    | finish hend => exact absurd hinside (Nat.not_lt.mpr hend)
    | halt _ hstep' _ => rw [Option.some.inj (hstep.symm.trans hstep')]
    | go _ hstep' hgo =>
      rw [Option.some.inj (hstep.symm.trans hstep'), hgo] at hstop
      cases hstop
  | go hinside hstep hgo _ ih =>
    cases h' with
    | finish hend => exact absurd hinside (Nat.not_lt.mpr hend)
    | halt _ hstep' hstop =>
      rw [Option.some.inj (hstep.symm.trans hstep'), hstop] at hgo
      cases hgo
    | go _ hstep' _ hrest =>
      obtain rfl := Option.some.inj (hstep.symm.trans hstep')
      exact ih hrest

/-- The loop stays inside the line, whatever the markers are. -/
theorem mem_le (h : Loops lexis line p pos positions q) (hpos : pos ≤ line.length) :
    ∀ i ∈ positions, i ≤ line.length := by
  induction h with
  | finish => simpa using hpos
  | halt hinside hstep _ => simpa using ⟨hpos, advance_le_of_stepBack hinside hstep⟩
  | go hinside hstep _ _ ih =>
    exact List.forall_mem_cons.mpr ⟨hpos, ih (advance_le_of_stepBack hinside hstep)⟩

/-- The loop takes no more steps than there are characters left. -/
theorem length_le (hpass : lexis.Passable) (h : Loops lexis line p pos positions q)
    (hpos : pos ≤ line.length) : positions.length + pos ≤ line.length + 1 := by
  induction h with
  | finish =>
    rw [List.length_singleton]
    omega
  | halt hinside =>
    rw [List.length_cons, List.length_singleton]
    omega
  | go hinside hstep hgo _ ih =>
    have hle := ih (advance_le_of_stepBack hinside hstep)
    have hpassed := advance_pos_of_stepBack hpass hinside hstep hgo
    rw [List.length_cons]
    omega

/-- With as much fuel as there are characters left, the scan ends where the loop does. -/
theorem exists_scan (hpass : lexis.Passable) {fuel : Nat} (hpos : pos ≤ line.length)
    (hfuel : line.length ≤ pos + fuel) (p : Progress) :
    ∃ positions, Loops lexis line p pos positions (scan lexis fuel p (line.drop pos)) := by
  induction fuel generalizing p pos with
  | zero => exact ⟨[pos], .finish hfuel⟩
  | succ fuel ih =>
    rcases Nat.lt_or_ge pos line.length with hinside | hend
    · obtain ⟨s, hstep⟩ := exists_stepBack lexis p.state hinside
      rw [scan_of_stepBack hinside hstep]
      cases hstop : s.stop with
      | true => exact ⟨_, .halt hinside hstep hstop⟩
      | false =>
        have hpassed := advance_pos_of_stepBack hpass hinside hstep hstop
        obtain ⟨positions, hrest⟩ := ih (advance_le_of_stepBack hinside hstep) (by omega) (p.after s)
        exact ⟨pos :: positions, .go hinside hstep hstop hrest⟩
    · rw [List.drop_eq_nil_of_le hend]
      exact ⟨[pos], .finish hend⟩

end Loops

theorem getsThrough_of_passable (hpass : lexis.Passable) (line : List Char) :
    GetsThrough lexis line where
  passes state pos hinside := by
    obtain ⟨s, hstep⟩ := exists_stepBack lexis state hinside
    refine ⟨s, (stepBack_of_lt lexis state hinside).symm.trans hstep, hstep, ?_⟩
    cases hstop : s.stop with
    | true => exact .inl rfl
    | false =>
      have hle := advance_le_of_stepBack hinside hstep
      exact .inr ⟨advance_pos_of_stepBack hpass hinside hstep hstop, by omega⟩
  ends state := by
    obtain ⟨positions, h⟩ :=
      Loops.exists_scan hpass (Nat.zero_le line.length) (Nat.le_add_left _ 0) (.atStart state)
    exact ⟨positions, _, h⟩
  final state positions q h := by
    have hfuel : line.length ≤ 0 + stepBound state line := by
      rw [Nat.zero_add]
      exact length_le_stepBound state line
    obtain ⟨_, hscan⟩ := Loops.exists_scan hpass (Nat.zero_le _) hfuel (.atStart state)
    rw [h.unique hscan]
    exact ⟨h.length_le hpass (Nat.zero_le _), h.mem_le (Nat.zero_le _), rfl⟩

/-- Where no marker that a step passes is empty, the scanner gets through every line: each step stops or
passes at least one character and no more than are left, and the loop ends with all positions inside
the line.  This holds for all known languages. -/
theorem scanner_gets_through :
    (∀ lexis : Lexis, lexis.Passable → ∀ line, GetsThrough lexis line) ∧
    ∀ language ∈ Language.all, ∀ line, GetsThrough language.lexis line :=
  ⟨fun _ hpass line => getsThrough_of_passable hpass line, fun language hlanguage line =>
    getsThrough_of_passable (Lexis.markersVisible_of_mem_all language hlanguage).fencesSolid.passable line⟩

/-- Rules with a directive that nothing closes and a line marker that a pipe makes an operator of. -/
def openLexis : Lexis :=
  { richLexis with
    lineMarkers := [Language.dashes], operatorTails := ['|'],
    directive := some ⟨['-', '-', '!'], []⟩ }

/-- The directive, an operator, and a string that ends the line with a backslash. -/
def clippedLine : List Char :=
  ['-', '-', '!', '-', '-', '|', '"', '\\']

/-- The loop passes the directive at once and the rest by one character each; the escape takes no
character along. -/
theorem clippedLine_passed :
    openLexis.Passable ∧
    Loops openLexis clippedLine (.atStart .normal) 0 [0, 3, 4, 5, 6, 7, 8]
      ⟨.literal (.plain .double), true, false⟩ ∧
    [0, 3, 4, 5, 6, 7, 8].length ≤ clippedLine.length + 1 ∧
    (∀ pos ∈ [0, 3, 4, 5, 6, 7, 8], pos ≤ clippedLine.length) ∧
    classifyLine openLexis .normal clippedLine = (.code, .normal) := by
  have hpass : openLexis.Passable := by
    constructor
    · rintro fence ⟨⟩
      exact ⟨by decide, by decide⟩
    · rintro fence ⟨⟩
      decide
  have hloop : Loops openLexis clippedLine (.atStart .normal) 0 [0, 3, 4, 5, 6, 7, 8]
      ⟨.literal (.plain .double), true, false⟩ :=
    .go (by decide) rfl rfl <| .go (by decide) rfl rfl <| .go (by decide) rfl rfl <|
      .go (by decide) rfl rfl <| .go (by decide) rfl rfl <| .go (by decide) rfl rfl <|
        .finish (by decide)
  exact ⟨hpass, hloop, (scanner_gets_through.1 openLexis hpass clippedLine).final _ _ _ hloop⟩

end Scan

end SourceCensus
