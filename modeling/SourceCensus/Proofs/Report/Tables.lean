import SourceCensus.Proofs.Report.Layout

/-! # Tables can be drawn -/

namespace SourceCensus.Report

open Text (IsUnpaired joiner)

theorem mem_flatten_intersperse {pieces : List (List Char)} {separator : List Char} {c : Char}
    (hc : c ∈ (pieces.intersperse separator).flatten) : c ∈ separator ∨ ∃ piece ∈ pieces, c ∈ piece := by
  induction pieces with
  | nil => simp at hc
  | cons piece pieces ih =>
    cases pieces with
    | nil => exact .inr ⟨piece, List.mem_cons_self, by simpa using hc⟩
    | cons next pieces =>
      rw [List.intersperse_cons_cons, List.flatten_cons, List.flatten_cons, List.mem_append,
        List.mem_append] at hc
      rcases hc with hc | hc | hc
      · exact .inr ⟨piece, List.mem_cons_self, hc⟩
      · exact .inl hc
      · exact (ih hc).imp_right fun ⟨other, hother, hc⟩ => ⟨other, List.mem_cons_of_mem _ hother, hc⟩

namespace Table

variable {t : Table} {cell : Marked} {row : List Marked} {rows : List (List Marked)}
  {lines : List Line} {title : List Char} {widths : List Nat} {style : Style}

structure IsPrintable (t : Table) : Prop where
  title : ∀ title ∈ t.title, (Marked.ofText title).IsPrintable
  cells : ∀ row ∈ t.allRows, ∀ cell ∈ row, cell.IsPrintable

theorem exists_cellLines (h : cell.IsPrintable) (alignment : Alignment) (width : Nat) (style : Style) :
    ∃ lines, cellLines alignment width style cell = .ok lines ∧ ∀ line ∈ lines, line.IsPrintable := by
  unfold cellLines
  split
  · exact ⟨[], rfl, by simp⟩
  · obtain ⟨laid, hlaid, hall⟩ := h.exists_layOut .shorten alignment (width - padding)
    obtain ⟨filled, hfilled, hall⟩ := exists_mapM_ok fun line hline =>
      (hall line hline).exists_exactly (width - padding)
    have hframe : ∀ line ∈ filled, ∃ framed,
        Line.exactly width (.ofText [' '] :: line ++ [.ofText [' ']]) = .ok framed ∧
          framed.IsPrintable := by
      intro line hline
      have hblank : Line.IsPrintable [.ofText [' ']] := Line.isPrintable_blank 1
      exact ((hblank.append (hall line hline)).append hblank).exists_exactly width
    obtain ⟨framed, hframed, hall⟩ := exists_mapM_ok hframe
    refine ⟨framed.map (Line.onStyle style), ?_, List.forall_mem_map.mpr fun line hline =>
      (hall line hline).onStyle style⟩
    rw [hlaid, ok_bind, hfilled, ok_bind, hframed]
    rfl

theorem isPrintable_fillHeight (h : ∀ line ∈ lines, line.IsPrintable) (height width : Nat)
    (style : Style) (below : Bool) :
    ∀ line ∈ fillHeight height width style below lines, line.IsPrintable := by
  intro line hline
  have hmem : line ∈ lines ∨
      line ∈ List.replicate (height - lines.length) [⟨style, List.replicate width ' '⟩] := by
    unfold fillHeight at hline
    split at hline
    · exact List.mem_append.mp hline
    · exact (List.mem_append.mp hline).symm
  rcases hmem with hline | hline
  · exact h line hline
  · rw [List.eq_of_mem_replicate hline]
    exact Line.isPrintable_singleton
      (Text.isUnpaired_of_not_mem (Text.joiner_not_mem_replicate_blank width))

theorem isPrintable_bordered {border : Char} (hborder : border ≠ joiner)
    (h : ∀ line ∈ lines, line.IsPrintable) : (bordered border lines).IsPrintable := by
  have hsingle : Line.IsPrintable [.ofText [border]] :=
    Line.isPrintable_singleton (Text.isUnpaired_of_not_mem (by
      simpa [Span.ofText] using hborder.symm))
  intro span hspan
  rcases List.mem_cons.mp hspan with rfl | hspan
  · exact hsingle _ List.mem_cons_self
  · obtain ⟨line, hline, hspan⟩ := List.mem_flatMap.mp hspan
    exact (h line hline).append hsingle span hspan

theorem isPrintable_getD (h : ∀ cell ∈ row, cell.IsPrintable) (index : Nat) :
    (row.getD index (.ofText [])).IsPrintable := by
  rw [List.getD_eq_getElem?_getD]
  cases hcell : row[index]? with
  | none => exact ⟨.nil, by simp [Marked.ofText]⟩
  | some cell => exact h cell (List.mem_of_getElem? hcell)

/-- The lines of one cell of a row, whichever column it is in. -/
theorem exists_rowCell (h : ∀ cell ∈ row, cell.IsPrintable) (style : Style)
    (entry : (Nat × Alignment) × Nat) :
    ∃ cell : Nat × List Line,
      (match entry with
      | ((width, alignment), index) => do
        return (width, ← cellLines alignment width style (row.getD index (.ofText [])))) = .ok cell ∧
      ∀ line ∈ cell.2, line.IsPrintable := by
  obtain ⟨⟨width, alignment⟩, index⟩ := entry
  obtain ⟨lines, hlines, hall⟩ := exists_cellLines (isPrintable_getD h index) alignment width style
  exact ⟨(width, lines), by dsimp only; rw [hlines]; rfl, hall⟩

/-- A cell of a row filled to the height of the row. -/
theorem exists_filledCell {cell : Nat × List Line} (h : ∀ line ∈ cell.2, line.IsPrintable)
    (height : Nat) (style : Style) (below : Bool) :
    ∃ filled : List Line,
      (match cell with
      | (width, lines) =>
        (fillHeight height width style below lines).mapM (Line.exactly width)) = .ok filled ∧
      ∀ line ∈ filled, line.IsPrintable := by
  obtain ⟨width, lines⟩ := cell
  exact exists_mapM_ok fun line hline =>
    (isPrintable_fillHeight h height width _ _ line hline).exists_exactly width

theorem exists_rowLines (h : ∀ cell ∈ row, cell.IsPrintable) (t : Table) (widths : List Nat)
    (isHeading : Bool) :
    ∃ lines, t.rowLines widths isHeading row = .ok lines ∧ ∀ line ∈ lines, line.IsPrintable := by
  have hborder : (if isHeading then '┃' else '│') ≠ joiner := by
    cases isHeading <;> decide
  unfold rowLines
  extract_lets style
  obtain ⟨cells, hcells, hall⟩ := exists_mapM_ok fun entry _ => exists_rowCell h style entry
  rw [hcells, ok_bind]
  extract_lets tallest height
  obtain ⟨filled, hfilled, hall⟩ := exists_mapM_ok fun cell hcell =>
    exists_filledCell (hall cell hcell) height (if tallest = 0 then .plain else style) (! isHeading)
  refine ⟨_, by rw [hfilled]; rfl, List.forall_mem_map.mpr fun number _ => ?_⟩
  refine isPrintable_bordered hborder (List.forall_mem_map.mpr fun lines hlines => ?_)
  rw [List.getD_eq_getElem?_getD]
  cases hline : lines[number]? with
  | none => exact fun _ hspan => absurd hspan List.not_mem_nil
  | some line => exact hall lines hlines line (List.mem_of_getElem? hline)

theorem exists_rowsLines (h : ∀ row ∈ rows, ∀ cell ∈ row, cell.IsPrintable) (t : Table)
    (widths : List Nat) (isHeading : Bool) :
    ∃ lines, t.rowsLines widths isHeading rows = .ok lines ∧ ∀ line ∈ lines, line.IsPrintable := by
  obtain ⟨blocks, hblocks, hall⟩ := exists_mapM_ok fun row hrow =>
    exists_rowLines (h row hrow) t widths isHeading
  refine ⟨blocks.flatten, by rw [rowsLines, hblocks]; rfl, fun line hline => ?_⟩
  obtain ⟨block, hblock, hline⟩ := List.mem_flatten.mp hline
  exact hall block hblock line hline

theorem exists_titleLines (h : (Marked.ofText title).IsPrintable) (widths : List Nat) :
    ∃ lines, titleLines widths title = .ok lines ∧ ∀ line ∈ lines, line.IsPrintable := by
  obtain ⟨laid, hlaid, hall⟩ := h.exists_layOut .cut .center
    (Sequence.totalNat widths + widths.length + 1)
  refine ⟨laid.map (Line.onStyle (.ofAttribute .italic)), by rw [titleLines, hlaid]; rfl,
    List.forall_mem_map.mpr fun line hline => (hall line hline).onStyle _⟩

theorem isPrintable_rule {r : Rule} (h : joiner ∉ [r.left, r.fill, r.middle, r.right])
    (widths : List Nat) : (rule widths r).IsPrintable := by
  simp only [List.mem_cons, List.not_mem_nil, or_false, not_or] at h
  obtain ⟨hleft, hfill, hmiddle, hright⟩ := h
  refine Line.isPrintable_singleton (Text.isUnpaired_of_not_mem fun hmem => ?_)
  rcases List.mem_cons.mp hmem with hmem | hmem
  · exact hleft hmem
  rcases List.mem_append.mp hmem with hmem | hmem
  · rcases mem_flatten_intersperse hmem with hmem | ⟨piece, hpiece, hmem⟩
    · exact hmiddle (List.mem_singleton.mp hmem)
    · obtain ⟨width, -, rfl⟩ := List.mem_map.mp hpiece
      exact hfill (List.eq_of_mem_replicate hmem)
  · exact hright (List.mem_singleton.mp hmem)

theorem IsPrintable.exists_fullLines (h : t.IsPrintable) (terminalWidth : Nat) :
    ∃ lines, t.fullLines terminalWidth = .ok lines ∧ ∀ line ∈ lines, line.IsPrintable := by
  have hrule {r : Rule} (h : joiner ∉ [r.left, r.fill, r.middle, r.right]) :
      (rule (t.widths terminalWidth) r).IsPrintable := isPrintable_rule h _
  obtain ⟨titles, htitles, htitle⟩ := exists_mapM_ok fun title hmem =>
    exists_titleLines (h.title title (Option.mem_toList.mp hmem)) (t.widths terminalWidth)
  have hpart (rows : List (List Marked)) (isHeading : Bool) (hsub : rows ⊆ t.allRows) :
      ∃ lines, t.rowsLines (t.widths terminalWidth) isHeading rows = .ok lines ∧
        ∀ line ∈ lines, line.IsPrintable :=
    exists_rowsLines (fun row hrow => h.cells row (hsub hrow)) t _ isHeading
  obtain ⟨heading, hheading, hheadings⟩ := hpart t.heading.toList true (by simp [allRows])
  obtain ⟨rows, hrows, hall⟩ := hpart t.rows false (by simp [allRows])
  obtain ⟨sums, hsums, hsum⟩ := hpart t.sums false (by simp [allRows])
  simp only [fullLines, htitles, hheading, hrows, hsums, ok_bind]
  refine ⟨_, rfl, ?_⟩
  simp only [List.forall_mem_append, List.forall_mem_singleton]
  refine ⟨⟨⟨⟨?_, ?_⟩, hall⟩, ?_⟩, hrule (by decide)⟩
  · intro line hline
    obtain ⟨block, hblock, hline⟩ := List.mem_flatten.mp hline
    exact htitle block hblock line hline
  · split
    · refine List.forall_mem_cons.mpr ⟨hrule (by decide), List.forall_mem_append.mpr ⟨hheadings, ?_⟩⟩
      exact List.forall_mem_singleton.mpr (hrule (by decide))
    · exact List.forall_mem_singleton.mpr (hrule (by decide))
  · split
    · simp
    · exact List.forall_mem_cons.mpr ⟨hrule (by decide), hsum⟩

/-- A table whose texts can be laid out can be drawn. -/
theorem IsPrintable.exists_lines (h : t.IsPrintable) (terminalWidth : Nat) :
    ∃ lines, t.lines terminalWidth = .ok lines := by
  unfold Table.lines
  split
  · exact ⟨[], rfl⟩
  · obtain ⟨full, hfull, hall⟩ := h.exists_fullLines terminalWidth
    obtain ⟨lines, hlines, -⟩ := exists_mapM_ok fun line hline =>
      (hall line hline).exists_upTo terminalWidth
    exact ⟨lines, by simp [hfull, hlines]⟩

end Table

end SourceCensus.Report
