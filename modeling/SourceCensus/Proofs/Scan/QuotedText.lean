import SourceCensus.Proofs.Scan.LineStates

/-! # The text of a plain string -/

namespace SourceCensus

/-- Every marker has a character, and none has the quote. -/
def Lexis.MarkersAvoid (lexis : Lexis) (quote : Scan.Quote) : Prop :=
  ∀ marker ∈ lexis.markers, marker ≠ [] ∧ quote.mark ∉ marker

namespace Scan

/-- The text of a plain string: characters other than its quote and the backslash, and backslashes
with the character behind them. -/
inductive QuotedBody (quote : Quote) : List Char → Prop
  | nil : QuotedBody quote []
  | character {c : Char} {body : List Char} (hquote : c ≠ quote.mark) (hbackslash : c ≠ '\\')
      (hbody : QuotedBody quote body) : QuotedBody quote (c :: body)
  | escaped (c : Char) {body : List Char} (hbody : QuotedBody quote body) :
      QuotedBody quote ('\\' :: c :: body)

def Quote.around (quote : Quote) (body : List Char) : List Char :=
  quote.mark :: body ++ [quote.mark]

section Lookahead

variable {lexis : Lexis} {quote : Quote} {m c : Char} {marker u r r₁ r₂ : List Char} {s : Step}

/-- A marker without the character `m` does not reach beyond it. -/
theorem isPrefixOf_append_cons (h : m ∉ marker) (u r : List Char) :
    marker.isPrefixOf (u ++ m :: r) = marker.isPrefixOf u := by
  induction u generalizing marker with
  | nil =>
    cases marker with
    | nil => rfl
    | cons first marker =>
      have hne : first ≠ m := fun heq => h (by simp [heq])
      simp [List.isPrefixOf, hne]
  | cons d u ih =>
    cases marker with
    | nil => rfl
    | cons first marker =>
      have hmarker : m ∉ marker := fun hmem => h (List.mem_cons_of_mem _ hmem)
      simp [List.isPrefixOf, ih hmarker]

theorem find?_append_cons (hne : marker ≠ []) (h : m ∉ marker) (u r : List Char) :
    Text.find? marker (u ++ m :: r) =
      (Text.find? marker u).or ((Text.find? marker r).map (u.length + 1 + ·)) := by
  induction u with
  | nil =>
    have hat : marker.isPrefixOf (m :: r) = false := by
      have := isPrefixOf_append_cons h [] r
      cases marker with
      | nil => exact absurd rfl hne
      | cons first marker => simpa [List.isPrefixOf] using this
    have hempty : marker.isEmpty = false := by simpa using hne
    simp only [List.nil_append, Text.find?, hat, hempty, Bool.false_eq_true, if_false]
    cases Text.find? marker r <;> simp [Nat.add_comm]
  | cons d u ih =>
    have hat : marker.isPrefixOf (d :: u ++ m :: r) = marker.isPrefixOf (d :: u) :=
      isPrefixOf_append_cons h (d :: u) r
    rw [List.cons_append] at hat ⊢
    rw [Text.find?, Text.find?, hat, ih]
    split_ifs
    · rfl
    · cases Text.find? marker u <;> cases Text.find? marker r <;> grind

theorem marksComment_append_cons (h : m ∉ marker) (u : List Char) :
    marksComment lexis (u ++ m :: r₁) marker = marksComment lexis (u ++ m :: r₂) marker := by
  simp only [marksComment, isPrefixOf_append_cons h]
  cases hprefix : marker.isPrefixOf u with
  | false => rfl
  | true =>
    have hlength := (List.isPrefixOf_iff_prefix.mp hprefix).length_le
    rw [List.drop_append_of_le_length hlength, List.drop_append_of_le_length hlength]
    cases u.drop marker.length <;> rfl

theorem not_pair_prefix_cons {d : Char} (h : r.head? ≠ some m) : ¬ [d, d] <+: m :: r := by
  intro hprefix
  obtain ⟨rfl, hrest⟩ := List.cons_prefix_cons.mp hprefix
  obtain ⟨more, rfl⟩ := hrest
  simp at h

/-- Three quotes stand at a place or not, whatever is behind a fourth character. -/
theorem tripled_isPrefixOf_congr {other : Quote}
    (h₁ : r₁.head? ≠ some m) (h₂ : r₂.head? ≠ some m) :
    other.tripled.isPrefixOf (c :: u ++ m :: r₁) = other.tripled.isPrefixOf (c :: u ++ m :: r₂) := by
  have hshort (r : List Char) (h : r.head? ≠ some m) :
      other.tripled.isPrefixOf (c :: m :: r) = false := by
    rw [Bool.eq_false_iff]
    intro hprefix
    have htail := (List.cons_prefix_cons.mp (List.isPrefixOf_iff_prefix.mp hprefix)).2
    exact not_pair_prefix_cons h htail
  match u with
  | [] => rw [List.singleton_append, List.singleton_append, hshort _ h₁, hshort _ h₂]
  | [_] => simp [Quote.tripled, List.isPrefixOf]
  | _ :: _ :: _ => simp [Quote.tripled, List.isPrefixOf]

end Lookahead

section Agreement

variable {lexis : Lexis} {quote : Quote} {c : Char} {u r r₁ r₂ : List Char} {s : Step}
  {state : State}

theorem MarkersAvoid.fencesSolid (havoid : lexis.MarkersAvoid quote) : lexis.FencesSolid := by
  intro fence hfence
  obtain ⟨hopener, hcloser⟩ := Lexis.mem_markers_of_mem_fences hfence
  exact ⟨(havoid _ hopener).1, (havoid _ hcloser).1⟩

theorem MarkersAvoid.opener (havoid : lexis.MarkersAvoid quote) {fence : Fence}
    (h : fence ∈ lexis.fences) : quote.mark ∉ fence.opener :=
  (havoid _ (Lexis.mem_markers_of_mem_fences h).1).2

theorem openTriple_congr
    (hfilled : lexis.tripleQuotes = true → r₁.head? ≠ some quote.mark ∧ r₂.head? ≠ some quote.mark) :
    openTriple lexis (c :: u ++ quote.mark :: r₁) = openTriple lexis (c :: u ++ quote.mark :: r₂) := by
  unfold openTriple
  cases htriple : lexis.tripleQuotes with
  | false => rfl
  | true =>
    obtain ⟨h₁, h₂⟩ := hfilled htriple
    rw [tripled_isPrefixOf_congr h₁ h₂, tripled_isPrefixOf_congr h₁ h₂]

/-- The closer of a directive that ends before the quote is found before it. -/
theorem span_congr {fence : Fence} (hsolid : fence.Solid) (hcloser : quote.mark ∉ fence.closer)
    (hopener : fence.opener.isPrefixOf u = true)
    (hspan : Fence.span fence (u ++ quote.mark :: r₁) ≤ u.length) :
    Fence.span fence (u ++ quote.mark :: r₂) = Fence.span fence (u ++ quote.mark :: r₁) := by
  have hlength := (List.isPrefixOf_iff_prefix.mp hopener).length_le
  unfold Fence.span at hspan ⊢
  simp only [List.drop_append_of_le_length hlength, find?_append_cons hsolid.2 hcloser]
    at hspan ⊢
  cases hfind : Text.find? fence.closer (u.drop fence.opener.length) with
  | some offset => rfl
  | none =>
    exfalso
    simp only [hfind, Option.none_or] at hspan
    cases hbehind : Text.find? fence.closer r₁ with
    | some offset =>
      simp only [hbehind, Option.map_some, List.length_drop] at hspan
      omega
    | none =>
      simp only [hbehind, Option.map_none, List.length_append, List.length_cons] at hspan
      omega

theorem passDirective_congr (havoid : lexis.MarkersAvoid quote)
    (h : ∀ t, passDirective lexis (u ++ quote.mark :: r₁) = some t → t.advance ≤ u.length) :
    passDirective lexis (u ++ quote.mark :: r₂) = passDirective lexis (u ++ quote.mark :: r₁) := by
  unfold passDirective at h ⊢
  cases hdirective : lexis.directive with
  | none => rfl
  | some fence =>
    have hmem : fence ∈ lexis.fences := by simp [Lexis.fences, hdirective]
    have hcloser := (havoid _ (Lexis.mem_markers_of_mem_fences hmem).2).2
    simp only [hdirective, isPrefixOf_append_cons (MarkersAvoid.opener havoid hmem)] at h ⊢
    split_ifs with hopener
    · rw [if_pos hopener] at h
      rw [span_congr (MarkersAvoid.fencesSolid havoid fence hmem) hcloser hopener (h _ rfl)]
    · rfl

theorem openBlock_congr (havoid : lexis.MarkersAvoid quote) (u : List Char) :
    openBlock lexis (u ++ quote.mark :: r₁) = openBlock lexis (u ++ quote.mark :: r₂) := by
  unfold openBlock
  cases hblock : lexis.block with
  | none => rfl
  | some fence =>
    have hmem : fence ∈ lexis.fences := by simp [Lexis.fences, hblock]
    simp only [isPrefixOf_append_cons (MarkersAvoid.opener havoid hmem)]

theorem lineComment_congr (havoid : lexis.MarkersAvoid quote) (u : List Char) :
    lineComment lexis (u ++ quote.mark :: r₁) = lineComment lexis (u ++ quote.mark :: r₂) := by
  have hsame : lexis.lineMarkers.any (marksComment lexis (u ++ quote.mark :: r₁)) =
      lexis.lineMarkers.any (marksComment lexis (u ++ quote.mark :: r₂)) := by
    rw [Bool.eq_iff_iff, List.any_eq_true, List.any_eq_true]
    refine exists_congr fun marker => and_congr_right fun hmarker => ?_
    rw [marksComment_append_cons (havoid _ (List.mem_append_left _ hmarker)).2 u]
  unfold lineComment
  rw [hsame]

/-- Outside of strings and comments the step is the same, whatever stands behind the quote, if it does
not get past the quote. -/
theorem stepNormal_congr (havoid : lexis.MarkersAvoid quote)
    (hfilled : lexis.tripleQuotes = true → r₁.head? ≠ some quote.mark ∧ r₂.head? ≠ some quote.mark)
    (h : stepNormal lexis (c :: u ++ quote.mark :: r₁) = some s)
    (hadvance : s.advance ≤ (c :: u).length) :
    stepNormal lexis (c :: u ++ quote.mark :: r₂) = some s := by
  simp only [stepNormal, Option.orElse_eq_orElse, Option.orElse_eq_or] at h ⊢
  rw [openTriple_congr hfilled] at h
  cases htriple : openTriple lexis (c :: u ++ quote.mark :: r₂) with
  | some t =>
    rw [htriple] at h
    exact h
  | none =>
    rw [htriple, Option.none_or] at h
    have hdirective : passDirective lexis (c :: u ++ quote.mark :: r₂) =
        passDirective lexis (c :: u ++ quote.mark :: r₁) := by
      apply passDirective_congr havoid
      intro t ht
      rw [ht] at h
      cases h
      exact hadvance
    rw [Option.none_or, hdirective, openBlock_congr havoid, lineComment_congr havoid]
    exact h

/-- In a string too; but before the quote itself, three quotes could close a string in one of two
lines, which is why the state behind the step must be the same there. -/
theorem stepLiteral_congr {delimiter : Literal}
    (h : stepLiteral delimiter (c :: u ++ quote.mark :: r₁) = some s)
    (hadvance : s.advance ≤ (c :: u).length)
    (hlast : u = [] → s.next.getD (.literal delimiter) = .normal) :
    stepLiteral delimiter (c :: u ++ quote.mark :: r₂) = some s := by
  cases delimiter with
  | plain other =>
    rw [← h]
    simp only [List.cons_append, stepLiteral, List.length_append, List.length_cons]
    congr 4
  | triple other =>
    simp only [stepLiteral] at h ⊢
    cases u with
    | nil =>
      split_ifs at h
      · cases h
        simp [Step.ofCode] at hadvance
      · cases h
        simp [Step.ofCode] at hlast
    | cons d u => cases u <;> simpa [Quote.tripled, List.isPrefixOf] using h

theorem stepComment_congr (havoid : lexis.MarkersAvoid quote) (depth : Int) (u : List Char) :
    stepComment lexis depth (u ++ quote.mark :: r₁) =
      stepComment lexis depth (u ++ quote.mark :: r₂) := by
  unfold stepComment
  cases hblock : lexis.block with
  | none => rfl
  | some fence =>
    have hmem : fence ∈ lexis.fences := by simp [Lexis.fences, hblock]
    have hcloser := (havoid _ (Lexis.mem_markers_of_mem_fences hmem).2).2
    simp only [isPrefixOf_append_cons (MarkersAvoid.opener havoid hmem),
      isPrefixOf_append_cons hcloser]

theorem step_congr (havoid : lexis.MarkersAvoid quote)
    (hfilled : lexis.tripleQuotes = true → r₁.head? ≠ some quote.mark ∧ r₂.head? ≠ some quote.mark)
    (h : step lexis state (c :: u ++ quote.mark :: r₁) = some s)
    (hadvance : s.advance ≤ (c :: u).length) (hlast : u = [] → s.next.getD state = .normal) :
    step lexis state (c :: u ++ quote.mark :: r₂) = some s := by
  cases state with
  | normal => exact stepNormal_congr havoid hfilled h hadvance
  | literal delimiter => exact stepLiteral_congr h hadvance hlast
  | comment depth =>
    rw [step, ← h, step, stepComment_congr havoid]

end Agreement

section Course

variable {lexis : Lexis} {quote : Quote} {p q : Progress} {text rest u r r₁ r₂ : List Char}
  {body : List Char}

theorem Reaches.length_le (h : Reaches lexis p text q rest) : rest.length ≤ text.length := by
  induction h with
  | refl => exact Nat.le_refl _
  | head _ _ _ ih =>
    rw [List.length_drop] at ih
    omega

/-- A scan does not come back to a place. -/
theorem Reaches.eq_of_length_le (hsolid : lexis.FencesSolid) (h : Reaches lexis p text q rest)
    (hlength : text.length ≤ rest.length) : p = q := by
  cases h with
  | refl => rfl
  | head hstep hgo hrest =>
    have hpos := advance_pos hsolid.passable hstep hgo
    have hle := hrest.length_le
    simp only [List.length_drop, List.length_cons] at hle hlength
    omega

/-- A scan that gets to a quote outside of strings and comments gets there in the same way if
something else stands behind the quote. -/
theorem Reaches.congr (havoid : lexis.MarkersAvoid quote)
    (hfilled : lexis.tripleQuotes = true → r₁.head? ≠ some quote.mark ∧ r₂.head? ≠ some quote.mark)
    (hq : q.state = .normal) (h : Reaches lexis p (u ++ quote.mark :: r₁) q (quote.mark :: r₁)) :
    Reaches lexis p (u ++ quote.mark :: r₂) q (quote.mark :: r₂) := by
  have hsolid := MarkersAvoid.fencesSolid havoid
  generalize htext : u ++ quote.mark :: r₁ = text at h
  generalize hrest : quote.mark :: r₁ = rest at h
  induction h generalizing u with
  | refl =>
    obtain rfl : u = [] := by simpa [← hrest] using htext
    exact .refl _ _
  | @head p q c more rest s hstep hgo hreaches ih =>
    subst hrest
    have hpos := advance_pos hsolid.passable hstep hgo
    have hlength := hreaches.length_le
    rw [List.length_drop] at hlength
    cases u with
    | nil =>
      simp only [← htext, List.nil_append, List.length_cons] at hlength
      omega
    | cons d u =>
      rw [List.cons_append] at htext
      obtain ⟨rfl, rfl⟩ := List.cons.inj htext
      have hadvance : s.advance ≤ (d :: u).length := by
        simp only [List.length_cons, List.length_append] at hlength ⊢
        omega
      have hdrop (r : List Char) : (d :: (u ++ quote.mark :: r)).drop s.advance =
          (d :: u).drop s.advance ++ quote.mark :: r :=
        List.drop_append_of_le_length hadvance
      have hlast : u = [] → s.next.getD p.state = .normal := by
        rintro rfl
        have hsame : p.after s = q := by
          apply hreaches.eq_of_length_le hsolid
          simp only [List.nil_append, List.length_drop, List.length_cons]
          omega
        rw [← hq, ← hsame]
        rfl
      have hreaches₂ := ih hq (hdrop r₁).symm rfl
      rw [← hdrop r₂] at hreaches₂
      exact .head (step_congr havoid hfilled hstep hadvance hlast) hgo hreaches₂

/-- An item of the text of a plain string is passed as a whole. -/
theorem QuotedBody.reaches (hbody : QuotedBody quote body) (comment : Bool) (rest : List Char) :
    Reaches lexis ⟨.literal (.plain quote), true, comment⟩ (body ++ quote.mark :: rest)
      ⟨.literal (.plain quote), true, comment⟩ (quote.mark :: rest) := by
  induction hbody with
  | nil => exact .refl _ _
  | character hquote hbackslash _ ih =>
    refine .head (s := .ofCode 1 none) ?_ rfl ?_
    · simp [step, stepLiteral, hquote, hbackslash]
    · simpa [Progress.after, Step.ofCode] using ih
  | escaped c _ ih =>
    refine .head (s := .ofCode 2 none) ?_ rfl ?_
    · simp [step, stepLiteral]
    · simpa [Progress.after, Step.ofCode] using ih

theorem tripled_isPrefixOf_quote {other : Quote} (h : r.head? ≠ some quote.mark) :
    other.tripled.isPrefixOf (quote.mark :: r) = false := by
  rw [Bool.eq_false_iff]
  intro hprefix
  have hpair : [other.mark, other.mark] <+: other.tripled := List.prefix_append _ [other.mark]
  exact not_pair_prefix_cons h (hpair.trans (List.isPrefixOf_iff_prefix.mp hprefix))

/-- The quote opens a plain string where it is not the first of three. -/
theorem stepNormal_quote (havoid : lexis.MarkersAvoid quote) (hquote : lexis.delimits quote = true)
    (hfilled : lexis.tripleQuotes = true → r.head? ≠ some quote.mark) :
    stepNormal lexis (quote.mark :: r) = some (.ofCode 1 (some (.literal (.plain quote)))) := by
  have hmarkers : ∀ marker ∈ lexis.markers, marker.isPrefixOf (quote.mark :: r) = false := by
    intro marker hmarker
    obtain ⟨hne, hmark⟩ := havoid marker hmarker
    rw [← List.nil_append (quote.mark :: r), isPrefixOf_append_cons hmark]
    cases marker with
    | nil => exact absurd rfl hne
    | cons first marker => rfl
  have htriple : openTriple lexis (quote.mark :: r) = none := by
    cases hon : lexis.tripleQuotes with
    | false => simp [openTriple, hon]
    | true => simp [openTriple, tripled_isPrefixOf_quote (hfilled hon)]
  have hplain : openPlain lexis (quote.mark :: r) =
      some (.ofCode 1 (some (.literal (.plain quote)))) := by
    cases quote with
    | double => rfl
    | single => simp [openPlain, Quote.mark, show lexis.singleQuotes = true from hquote]
  rw [stepNormal_of_no_marker hmarkers, htriple, hplain]
  rfl

theorem around_append (quote : Quote) (body post : List Char) :
    quote.around body ++ post = quote.mark :: (body ++ quote.mark :: post) := by
  simp [Quote.around]

/-- The text of a plain string does not start with its quote. -/
theorem QuotedBody.head?_append_ne (hbody : QuotedBody quote body) (hne : body ≠ [])
    (rest : List Char) : (body ++ rest).head? ≠ some quote.mark := by
  cases hbody with
  | nil => exact absurd rfl hne
  | character hquote _ _ => simpa using hquote
  | escaped c _ => cases quote <;> simp [Quote.mark]

/-- A plain string is passed from its opening quote to its closing quote, and is code. -/
theorem reaches_around (havoid : lexis.MarkersAvoid quote) (hquote : lexis.delimits quote = true)
    (hbody : QuotedBody quote body) (hfilled : lexis.tripleQuotes = true → body ≠ [])
    (hp : p.state = .normal) (post : List Char) :
    Reaches lexis p (quote.around body ++ post) ⟨.normal, true, p.comment⟩ post := by
  rw [around_append]
  have hopen : step lexis p.state (quote.mark :: (body ++ quote.mark :: post)) =
      some (.ofCode 1 (some (.literal (.plain quote)))) := by
    rw [hp]
    exact stepNormal_quote havoid hquote fun hon => hbody.head?_append_ne (hfilled hon) _
  have hclose : step lexis (.literal (.plain quote)) (quote.mark :: post) =
      some (.ofCode 1 (some .normal)) := by
    cases quote <;> rfl
  have hafter : p.after (.ofCode 1 (some (.literal (.plain quote)))) =
      ⟨.literal (.plain quote), true, p.comment⟩ := by
    simp [Progress.after, Step.ofCode]
  refine .head hopen rfl ?_
  rw [hafter]
  refine (hbody.reaches p.comment post).trans (.head hclose rfl ?_)
  simpa [Progress.after, Step.ofCode] using Reaches.refl _ _

/-- A line is code where its scan passes a plain string, and leaves what the scan of the rest of it
leaves. -/
theorem classifyLine_of_reaches_around (havoid : lexis.MarkersAvoid quote)
    (hquote : lexis.delimits quote = true) (hbody : QuotedBody quote body)
    (hfilled : lexis.tripleQuotes = true → body ≠ []) (hp : p.state = .normal) {state : State}
    {pre post : List Char} (h : Reaches lexis (.atStart state) (pre ++ quote.around body ++ post) p
      (quote.around body ++ post)) :
    classifyLine lexis state (pre ++ quote.around body ++ post) =
      (.code, (scanned lexis ⟨.normal, true, p.comment⟩ post).state.atLineEnd) := by
  have hsolid := MarkersAvoid.fencesSolid havoid
  have hblank : Text.isBlankText (pre ++ quote.around body ++ post) = false := by
    have hmark : Text.isBlank quote.mark = false := by cases quote <;> decide
    simp [Text.isBlankText, Quote.around, hmark]
  have hpassed := h.trans (reaches_around havoid hquote hbody hfilled hp post)
  have hcode : (scanned lexis ⟨.normal, true, p.comment⟩ post).code = true := code_scan _ _ rfl
  rw [classifyLine_eq_scanned hsolid state _ (.inl hblank), hpassed.scanned_eq hsolid,
    Progress.kind, if_pos hcode]

end Course

section Content

variable {lexis : Lexis} {quote : Quote} {p : Progress} {body₁ body₂ : List Char}

/-- The text of a closed plain string does not matter.  If the scan of a line gets to a quote outside
of strings and comments, and the quote delimits strings, then the line is code and leaves the same
state to the next line, whatever text stands between that quote and the one that closes the string.
The text must not be empty where three quotes delimit strings as well, and no marker may hold the
quote. -/
theorem string_text_irrelevant (havoid : lexis.MarkersAvoid quote)
    (hquote : lexis.delimits quote = true) (hbody₁ : QuotedBody quote body₁)
    (hbody₂ : QuotedBody quote body₂)
    (hfilled : lexis.tripleQuotes = true → body₁ ≠ [] ∧ body₂ ≠ []) (state : State)
    (pre post : List Char) (hp : p.state = .normal)
    (hreaches : Reaches lexis (.atStart state) (pre ++ quote.around body₁ ++ post) p
      (quote.around body₁ ++ post)) :
    ∃ next, classifyLine lexis state (pre ++ quote.around body₁ ++ post) = (.code, next) ∧
      classifyLine lexis state (pre ++ quote.around body₂ ++ post) = (.code, next) := by
  have hheads (hon : lexis.tripleQuotes = true) :
      (body₁ ++ quote.mark :: post).head? ≠ some quote.mark ∧
        (body₂ ++ quote.mark :: post).head? ≠ some quote.mark :=
    ⟨hbody₁.head?_append_ne (hfilled hon).1 _, hbody₂.head?_append_ne (hfilled hon).2 _⟩
  have hreaches₂ : Reaches lexis (.atStart state) (pre ++ quote.around body₂ ++ post) p
      (quote.around body₂ ++ post) := by
    rw [List.append_assoc, around_append] at hreaches ⊢
    exact hreaches.congr havoid hheads hp
  exact ⟨_, classifyLine_of_reaches_around havoid hquote hbody₁ (fun hon => (hfilled hon).1) hp
      hreaches, classifyLine_of_reaches_around havoid hquote hbody₂ (fun hon => (hfilled hon).2) hp
      hreaches₂⟩

/-- Line comments, block comments, and all kinds of strings. -/
def markedLexis : Lexis :=
  { richLexis with lineMarkers := [Language.slashes] }

/-- An escaped quote and markers of comments in a string are as good as any other text, on a line that
starts in a comment and ends in another. -/
theorem markers_in_string_irrelevant :
    ∃ next, classifyLine markedLexis (.comment 1)
        (['*', '/', ' '] ++ Quote.double.around ['a'] ++ ['/', '*']) = (.code, next) ∧
      classifyLine markedLexis (.comment 1)
        (['*', '/', ' '] ++ Quote.double.around ['\\', '"', '/', '/', '\''] ++ ['/', '*']) =
          (.code, next) := by
  have hmarkers : markedLexis.MarkersAvoid .double := by
    unfold Lexis.MarkersAvoid
    decide
  have hplain : QuotedBody .double ['a'] := .character (by decide) (by decide) .nil
  have hmarked : QuotedBody .double ['\\', '"', '/', '/', '\''] :=
    .escaped '"' (.character (by decide) (by decide) (.character (by decide) (by decide)
      (.character (by decide) (by decide) .nil)))
  have hreaches : Reaches markedLexis (.atStart (.comment 1))
      (['*', '/', ' '] ++ Quote.double.around ['a'] ++ ['/', '*']) ⟨.normal, false, true⟩
      (Quote.double.around ['a'] ++ ['/', '*']) :=
    .head rfl rfl (.head rfl rfl (.refl _ _))
  exact string_text_irrelevant hmarkers rfl hplain hmarked (by simp) (.comment 1) ['*', '/', ' ']
    ['/', '*'] rfl hreaches

end Content

end Scan

end SourceCensus
