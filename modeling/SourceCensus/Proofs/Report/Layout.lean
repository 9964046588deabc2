import SourceCensus.Proofs.Outcome
import SourceCensus.Proofs.Text.Cells
import SourceCensus.Report.Table

/-! # Layout never fails -/

namespace SourceCensus.Report

open Text (IsUnpaired cellWidth joiner)

namespace Marked

variable {t u : Marked} {s : List Char} {width : Nat}

/-- A text that can be laid out: no joiners meet in it, and its marks have styles. -/
structure IsPrintable (t : Marked) : Prop where
  unpaired : IsUnpaired t.text
  styled : ∀ m ∈ t.marks, ∃ style, Style.ofText m.style = .ok style

theorem IsPrintable.ofText (h : IsUnpaired (s.filter (! isUnprinted ·))) : (ofText s).IsPrintable :=
  ⟨h, fun _ hm => absurd hm List.not_mem_nil⟩

theorem IsPrintable.setText (h : t.IsPrintable) (hs : IsUnpaired s) : (t.setText s).IsPrintable := by
  refine ⟨hs, fun m hm => ?_⟩
  simp only [Marked.setText] at hm
  split at hm
  · obtain ⟨whole, hwhole, rfl⟩ := List.mem_map.mp hm
    exact h.styled whole (List.mem_of_mem_filter hwhole)
  · exact h.styled m hm

theorem IsPrintable.stretch (h : t.IsPrintable) (start stop : Nat) :
    (t.stretch start stop).IsPrintable := by
  constructor
  · exact h.unpaired.of_isInfix ((List.take_prefix _ _).isInfix.trans (List.drop_suffix _ _).isInfix)
  · intro m hm
    obtain ⟨whole, hwhole, hm⟩ := List.mem_filterMap.mp hm
    dsimp only at hm
    split at hm
    · cases hm
      exact h.styled whole hwhole
    · cases hm

theorem IsPrintable.stretchesFrom (h : t.IsPrintable) (start : Nat) (positions : List Nat) :
    ∀ u ∈ t.stretchesFrom start positions, u.IsPrintable := by
  induction positions generalizing start with
  | nil => simpa [Marked.stretchesFrom] using h.stretch start t.text.length
  | cons position rest ih =>
    exact List.forall_mem_cons.mpr ⟨h.stretch start position, ih position⟩

theorem IsPrintable.cutAt (h : t.IsPrintable) (positions : List Nat) :
    ∀ u ∈ t.cutAt positions, u.IsPrintable := by
  unfold Marked.cutAt
  split
  · simpa using h
  · exact h.stretchesFrom 0 positions

theorem IsPrintable.splitFrom (h : t.IsPrintable) (start : Nat) (pieces : List (List Char)) :
    ∀ u ∈ t.splitFrom start pieces, u.IsPrintable := by
  induction pieces generalizing start with
  | nil => simp [Marked.splitFrom]
  | cons piece pieces ih =>
    exact List.forall_mem_cons.mpr ⟨h.stretch start _, ih _⟩

theorem IsPrintable.splitOn (h : t.IsPrintable) (c : Char) : ∀ u ∈ t.splitOn c, u.IsPrintable := by
  unfold Marked.splitOn
  split
  · exact h.splitFrom 0 _
  · simpa using h

theorem IsPrintable.padStart (h : t.IsPrintable) (count : Nat) : (t.padStart count).IsPrintable := by
  constructor
  · exact h.unpaired.of_not_mem_append (Text.joiner_not_mem_replicate_blank count)
  · intro m hm
    obtain ⟨unmoved, hunmoved, rfl⟩ := List.mem_map.mp hm
    exact h.styled unmoved hunmoved

theorem IsPrintable.padEnd (h : t.IsPrintable) (count : Nat) : (t.padEnd count).IsPrintable :=
  ⟨h.unpaired.append_of_not_mem (Text.joiner_not_mem_replicate_blank count), h.styled⟩

theorem IsPrintable.append (h : t.IsPrintable) (hu : u.IsPrintable)
    (htext : IsUnpaired (t.text ++ u.text)) : (t.append u).IsPrintable := by
  refine ⟨htext, fun m hm => ?_⟩
  rcases List.mem_append.mp hm with hm | hm
  · exact h.styled m hm
  · obtain ⟨unmoved, hunmoved, rfl⟩ := List.mem_map.mp hm
    exact hu.styled unmoved hunmoved

theorem text_concat (texts : List Marked) : (concat texts).text = texts.flatMap (·.text) := by
  induction texts with
  | nil => rfl
  | cons t texts ih =>
    rw [List.flatMap_cons, ← ih]
    rfl

theorem IsPrintable.concat {texts : List Marked}
    (h : ∀ t ∈ texts, ∀ m ∈ t.marks, ∃ style, Style.ofText m.style = .ok style)
    (htext : IsUnpaired (texts.flatMap (·.text))) : (Marked.concat texts).IsPrintable := by
  induction texts with
  | nil => exact ⟨.nil, by simp [Marked.concat]⟩
  | cons t texts ih =>
    obtain ⟨hown, hrest⟩ := List.forall_mem_cons.mp h
    rw [List.flatMap_cons] at htext
    have hbehind := ih hrest (htext.of_isInfix (List.suffix_append _ _).isInfix)
    refine IsPrintable.append ⟨htext.of_isInfix (List.prefix_append _ _).isInfix, hown⟩ hbehind ?_
    rwa [← text_concat] at htext

end Marked

section Tabs

variable {s s' r r' : List Char} {t : Marked}

/-- A text with blanks in the places of tabs. -/
inductive Expands : List Char → List Char → Prop where
  | nil : Expands [] []
  | keep {s s' : List Char} (c : Char) (h : Expands s s') : Expands (c :: s) (c :: s')
  | tab {s s' : List Char} (count : Nat) (h : Expands s s') :
      Expands ('\t' :: s) (' ' :: (List.replicate count ' ' ++ s'))

theorem Expands.refl (s : List Char) : Expands s s := by
  induction s with
  | nil => exact .nil
  | cons c s ih => exact .keep c ih

theorem Expands.append (h : Expands s s') (h' : Expands r r') : Expands (s ++ r) (s' ++ r') := by
  induction h with
  | nil => exact h'
  | keep c _ ih => exact .keep c ih
  | tab count _ ih =>
    rw [List.cons_append, List.cons_append, List.append_assoc]
    exact .tab count ih

theorem Expands.head (h : Expands s s') (hhead : s'.head? = some joiner) : s.head? = some joiner := by
  cases h with
  | nil => exact hhead
  | keep c _ => exact hhead
  | tab count _ => exact absurd (Option.some.inj hhead) (by decide)

theorem Expands.isUnpaired (h : Expands s s') (hs : IsUnpaired s) : IsUnpaired s' := by
  induction h with
  | nil => exact hs
  | keep c hexpands ih =>
    obtain ⟨hhead, htail⟩ := List.isChain_cons.mp hs
    refine (ih htail).cons fun d hd hboth => ?_
    obtain ⟨hc, rfl⟩ := hboth
    exact hhead joiner (hexpands.head hd) ⟨hc, rfl⟩
  | tab count _ ih =>
    have htail := ih (List.isChain_cons.mp hs).2
    exact htail.of_not_mem_append (Text.joiner_not_mem_replicate_blank (count + 1))

theorem expands_fillToStops (column : Nat) (pieces : List Marked) :
    Expands (pieces.flatMap (·.text)) ((fillToStops column pieces).flatMap (·.text)) := by
  induction pieces generalizing column with
  | nil => exact .nil
  | cons piece pieces ih =>
    unfold fillToStops
    split
    · rename_i hlast
      have hpiece : piece.text = piece.text.dropLast ++ ['\t'] :=
        (List.dropLast_append_getLast? '\t' hlast).symm
      rw [List.flatMap_cons, List.flatMap_cons, hpiece]
      refine Expands.append ?_ (ih _)
      simp only [Marked.extendEnd, List.dropLast_concat]
      rw [List.append_assoc]
      refine (Expands.refl _).append ?_
      simpa using Expands.tab _ .nil
    · rw [List.flatMap_cons, List.flatMap_cons]
      exact (Expands.refl _).append (ih _)

theorem styled_fillToStops (column : Nat) {pieces : List Marked}
    (h : ∀ t ∈ pieces, ∀ m ∈ t.marks, ∃ style, Style.ofText m.style = .ok style) :
    ∀ t ∈ fillToStops column pieces, ∀ m ∈ t.marks, ∃ style, Style.ofText m.style = .ok style := by
  induction pieces generalizing column with
  | nil => simp [fillToStops]
  | cons piece pieces ih =>
    obtain ⟨hown, hrest⟩ := List.forall_mem_cons.mp h
    unfold fillToStops
    split
    · refine List.forall_mem_cons.mpr ⟨fun m hm => ?_, ih _ hrest⟩
      obtain ⟨short, hshort, rfl⟩ := List.mem_map.mp hm
      have hstyle := hown short hshort
      split
      · exact hstyle
      · exact hstyle
    · exact List.forall_mem_cons.mpr ⟨hown, ih _ hrest⟩

theorem pairwise_positionsBehind (c : Char) (position : Nat) (s : List Char) :
    (positionsBehind c position s).Pairwise (· ≤ ·) ∧
      ∀ p ∈ positionsBehind c position s, position < p := by
  induction s generalizing position with
  | nil => simp [positionsBehind]
  | cons d s ih =>
    obtain ⟨hsorted, hbound⟩ := ih (position + 1)
    unfold positionsBehind
    split
    · refine ⟨List.pairwise_cons.mpr ⟨fun p hp => Nat.le_of_lt (hbound p hp), hsorted⟩, ?_⟩
      exact List.forall_mem_cons.mpr ⟨Nat.lt_succ_self _, fun p hp => Nat.lt_of_succ_lt (hbound p hp)⟩
    · exact ⟨hsorted, fun p hp => Nat.lt_of_succ_lt (hbound p hp)⟩

theorem Marked.IsPrintable.expandTabs (h : t.IsPrintable) : (expandTabs t).IsPrintable := by
  unfold Report.expandTabs
  split
  · apply Marked.IsPrintable.concat
    · exact styled_fillToStops 0 fun u hu => (h.cutAt _ u hu).styled
    · refine (expands_fillToStops 0 _).isUnpaired ?_
      rw [t.flatMap_text_cutAt (pairwise_positionsBehind '\t' 0 t.text).1]
      exact h.unpaired
  · exact h

end Tabs

section Wrap

variable {t : Marked} {width : Nat} {overlong : Overlong} {alignment : Alignment}

theorem prefix_trimEnd (s : List Char) : Text.trimEnd s <+: s := by
  have hsuffix : s.reverse.dropWhile Text.isBlank <:+ s.reverse := List.dropWhile_suffix _
  simpa [Text.trimEnd] using List.reverse_prefix.mpr hsuffix

theorem Marked.IsPrintable.wrapParagraph (h : t.IsPrintable) :
    ∀ line ∈ wrapParagraph overlong width t, line.IsPrintable := by
  intro line hline
  obtain ⟨piece, hpiece, rfl⟩ := List.mem_map.mp hline
  have hprintable := h.expandTabs.cutAt _ piece hpiece
  exact hprintable.setText (hprintable.unpaired.of_isInfix (List.take_prefix _ _).isInfix)

theorem Marked.IsPrintable.exists_fit (h : t.IsPrintable) (overlong : Overlong) (width : Nat) :
    ∃ line, fit overlong width t = .ok line ∧ line.IsPrintable := by
  unfold fit
  split
  · exact ⟨t, rfl, h⟩
  · rename_i hwide
    cases overlong with
    | cut =>
      obtain ⟨s, hcut, hs⟩ := h.unpaired.exists_cut (by omega : width ≤ cellWidth t.text)
      refine ⟨t.setText s, ?_, h.setText hs⟩
      simp only [hcut, ok_bind]
      rfl
    | shorten =>
      obtain ⟨s, hcut, hs⟩ := h.unpaired.exists_cut (by omega : width - 1 ≤ cellWidth t.text)
      refine ⟨t.setText (s ++ ['…']), ?_, h.setText (hs.append_of_not_mem (by decide))⟩
      simp only [hcut, ok_bind]
      rfl

theorem Marked.IsPrintable.exists_align (h : t.IsPrintable) (overlong : Overlong)
    (alignment : Alignment) (width : Nat) :
    ∃ line, align overlong alignment width t = .ok line ∧ line.IsPrintable := by
  have htrimmed : (t.setText (Text.trimEnd t.text)).IsPrintable :=
    h.setText (h.unpaired.of_isInfix (prefix_trimEnd _).isInfix)
  cases alignment with
  | ragged => exact ⟨t, rfl, h⟩
  | left =>
    obtain ⟨line, hfit, hline⟩ := h.exists_fit overlong width
    refine ⟨line.padEnd (width - cellWidth t.text), ?_, hline.padEnd _⟩
    simp only [align, hfit, ok_bind]
    rfl
  | right =>
    obtain ⟨line, hfit, hline⟩ := htrimmed.exists_fit overlong width
    refine ⟨line.padStart (width - cellWidth line.text), ?_, hline.padStart _⟩
    simp only [align, hfit, ok_bind]
    rfl
  | center =>
    obtain ⟨line, hfit, hline⟩ := htrimmed.exists_fit overlong width
    let moved := line.padStart ((width - cellWidth line.text) / 2)
    have hmoved : moved.IsPrintable := hline.padStart _
    refine ⟨moved.padEnd (width - cellWidth moved.text), ?_, hmoved.padEnd _⟩
    simp only [align, hfit, ok_bind]
    rfl

theorem Marked.IsPrintable.exists_wrap (h : t.IsPrintable) (overlong : Overlong)
    (alignment : Alignment) (width : Nat) :
    ∃ lines, wrap overlong alignment width t = .ok lines ∧ ∀ line ∈ lines, line.IsPrintable := by
  have hparagraph : ∀ p ∈ t.splitOn '\n', ∃ lines, alignParagraph overlong alignment width p = .ok lines ∧
      ∀ line ∈ lines, line.IsPrintable := by
    intro p hp
    obtain ⟨aligned, haligned, hall⟩ := exists_mapM_ok fun line hline =>
      ((h.splitOn '\n' p hp).wrapParagraph line hline).exists_align overlong alignment width
    obtain ⟨lines, hlines, hfitted⟩ := exists_mapM_ok fun line hline =>
      (hall line hline).exists_fit overlong width
    exact ⟨lines, by rw [alignParagraph, haligned, ok_bind, hlines], hfitted⟩
  obtain ⟨paragraphs, hwrap, hall⟩ := exists_mapM_ok hparagraph
  refine ⟨paragraphs.flatten, by rw [wrap, hwrap]; rfl, fun line hline => ?_⟩
  obtain ⟨lines, hlines, hmem⟩ := List.mem_flatten.mp hline
  exact hall lines hlines line hmem

end Wrap

section Lines

variable {t : Marked} {line : Line} {width : Nat}

def Line.IsPrintable (line : Line) : Prop :=
  ∀ span ∈ line, IsUnpaired span.text

theorem Marked.IsPrintable.exists_runs (h : t.IsPrintable) :
    ∃ line, t.runs = .ok line ∧ line.IsPrintable := by
  obtain ⟨styles, hstyles, -⟩ :=
    exists_mapM_ok fun m hm => (h.styled m hm).imp fun style hs => And.intro hs trivial
  have hruns : t.runs = .ok (runsFrom (t.marks.zip styles) 0 t.text) := by
    rw [Marked.runs, hstyles]
    rfl
  refine ⟨_, hruns, fun span hspan => h.unpaired.of_isInfix ?_⟩
  obtain ⟨front, back, hsplit⟩ := List.append_of_mem hspan
  have htext := Marked.flatMap_text_runs hruns
  rw [hsplit] at htext
  exact ⟨front.flatMap (·.text), back.flatMap (·.text), by simpa using htext⟩

theorem Line.IsPrintable.exists_crop (h : line.IsPrintable) (hwidth : width < line.width) :
    ∃ cropped, line.crop width = .ok cropped ∧ cropped.IsPrintable := by
  induction line generalizing width with
  | nil => exact ⟨[], rfl, h⟩
  | cons span line ih =>
    obtain ⟨hown, hrest⟩ := List.forall_mem_cons.mp h
    have hsum : Line.width (span :: line) = cellWidth span.text + Line.width line := rfl
    simp only [Line.crop]
    split
    · obtain ⟨cropped, hcrop, hcropped⟩ :=
        ih hrest (by omega : width - cellWidth span.text < Line.width line)
      exact ⟨span :: cropped, by simp [hcrop], List.forall_mem_cons.mpr ⟨hown, hcropped⟩⟩
    · split
      · exact ⟨[span], rfl, by simpa [Line.IsPrintable] using hown⟩
      · obtain ⟨s, hcut, hs⟩ := hown.exists_cut (by omega : width ≤ cellWidth span.text)
        exact ⟨[{ span with text := s }], by simp [hcut, Except.mapError], by simpa [Line.IsPrintable] using hs⟩

theorem Line.IsPrintable.exists_upTo (h : line.IsPrintable) (width : Nat) :
    ∃ short, line.upTo width = .ok short ∧ short.IsPrintable := by
  unfold Line.upTo
  split
  · exact h.exists_crop ‹_›
  · exact ⟨line, rfl, h⟩

theorem Line.IsPrintable.append {more : Line} (h : line.IsPrintable) (hmore : more.IsPrintable) :
    Line.IsPrintable (line ++ more) := by
  intro span hspan
  exact (List.mem_append.mp hspan).elim (h span) (hmore span)

theorem Line.isPrintable_singleton {span : Span} (h : IsUnpaired span.text) :
    Line.IsPrintable [span] := by
  intro other hother
  rwa [List.mem_singleton.mp hother]

theorem Line.isPrintable_blank (count : Nat) :
    Line.IsPrintable [.ofText (List.replicate count ' ')] :=
  Line.isPrintable_singleton
    (Text.isUnpaired_of_not_mem (Text.joiner_not_mem_replicate_blank count))

theorem Line.IsPrintable.exists_exactly (h : line.IsPrintable) (width : Nat) :
    ∃ filled, line.exactly width = .ok filled ∧ filled.IsPrintable := by
  unfold Line.exactly
  split
  · exact ⟨_, rfl, h.append (Line.isPrintable_blank _)⟩
  · exact h.exists_upTo width

theorem Line.IsPrintable.onStyle (h : line.IsPrintable) (style : Style) :
    (line.onStyle style).IsPrintable := by
  intro span hspan
  obtain ⟨plain, hplain, rfl⟩ := List.mem_map.mp hspan
  exact h plain hplain

theorem Marked.IsPrintable.exists_layOut (h : t.IsPrintable) (overlong : Overlong)
    (alignment : Alignment) (width : Nat) :
    ∃ lines, layOut overlong alignment width t = .ok lines ∧ ∀ line ∈ lines, line.IsPrintable := by
  obtain ⟨wrapped, hwrap, hall⟩ := h.exists_wrap overlong alignment width
  have hruns : ∀ t ∈ wrapped, ∃ line : Line, t.runs.mapError LayoutFault.style = .ok line ∧
      line.IsPrintable := by
    intro t ht
    obtain ⟨line, hruns, hline⟩ := (hall t ht).exists_runs
    exact ⟨line, by rw [hruns]; rfl, hline⟩
  obtain ⟨lines, hlines, hprintable⟩ := exists_mapM_ok hruns
  exact ⟨lines, by rw [layOut, hwrap]; exact hlines, hprintable⟩

/-- A text that can be laid out can be printed on its own. -/
theorem Marked.IsPrintable.exists_printedLines (h : t.IsPrintable) (terminalWidth : Nat) :
    ∃ lines, printedLines terminalWidth t = .ok lines := by
  unfold printedLines
  split
  · exact ⟨[], rfl⟩
  · obtain ⟨lines, hlayOut, hall⟩ := h.exists_layOut .cut .ragged terminalWidth
    obtain ⟨short, hshort, -⟩ := exists_mapM_ok fun line hline =>
      (hall line hline).exists_upTo terminalWidth
    exact ⟨short, by simp [hlayOut, hshort]⟩

end Lines

end SourceCensus.Report
