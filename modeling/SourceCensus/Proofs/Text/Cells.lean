import Mathlib.Data.List.Chain
import SourceCensus.Text.CellCut

/-! # Texts that can be cut at a cell -/

namespace SourceCensus.Text

variable {s t : List Char} {width : Nat}

/-- No two joiners stand next to each other. -/
def IsUnpaired (s : List Char) : Prop :=
  s.IsChain fun a b => ¬ (a = joiner ∧ b = joiner)

instance : DecidablePred IsUnpaired := fun s =>
  inferInstanceAs (Decidable (s.IsChain fun a b => ¬ (a = joiner ∧ b = joiner)))

theorem isUnpaired_of_not_mem (h : joiner ∉ s) : IsUnpaired s := by
  induction s with
  | nil => exact .nil
  | cons c s ih =>
    rw [List.mem_cons, not_or] at h
    exact (ih h.2).cons fun _ _ hboth => h.1 hboth.1.symm

theorem IsUnpaired.of_isInfix (h : IsUnpaired s) (hpart : t <:+: s) : IsUnpaired t :=
  List.IsChain.infix h hpart

theorem IsUnpaired.append_of_not_mem (h : IsUnpaired s) (ht : joiner ∉ t) : IsUnpaired (s ++ t) :=
  List.isChain_append.mpr ⟨h, isUnpaired_of_not_mem ht, fun _ _ _ hy hboth =>
    ht (hboth.2 ▸ List.mem_of_mem_head? hy)⟩

theorem IsUnpaired.of_not_mem_append (ht : IsUnpaired t) (h : joiner ∉ s) : IsUnpaired (s ++ t) :=
  List.isChain_append.mpr ⟨isUnpaired_of_not_mem h, ht, fun _ hx _ _ hboth =>
    h (hboth.1 ▸ List.mem_of_getLast? hx)⟩

theorem joiner_not_mem_replicate_blank (count : Nat) : joiner ∉ List.replicate count ' ' := by
  intro h
  exact absurd (List.eq_of_mem_replicate h) (by decide)

section Cells

theorem cellWidthFrom_none_le (joined : Bool) (last : Option Char) (s : List Char) :
    cellWidthFrom joined none s ≤ cellWidthFrom joined last s := by
  induction s generalizing joined last with
  | nil => exact Nat.le_refl _
  | cons c s ih =>
    unfold cellWidthFrom
    split_ifs <;> simp_all

/-- A character whose emoji form is as wide as itself makes no difference to what follows. -/
theorem cellWidthFrom_of_not_isWidenable {last : Option Char} (h : last.any isWidenable = false)
    (joined : Bool) (s : List Char) : cellWidthFrom joined last s = cellWidthFrom joined none s := by
  induction s generalizing joined with
  | nil => rfl
  | cons c s ih =>
    unfold cellWidthFrom
    split_ifs <;> simp_all

/-- The glyphs behind a first character take the cells that the text behind it takes. -/
theorem glyphCells_glyphsFrom (text : List Char) (width : Nat) (joined : Bool) (last : Option Char)
    (s : List Char) :
    glyphCells (glyphsFrom text width joined last s) = width + cellWidthFrom joined last s := by
  induction s generalizing text width joined last with
  | nil => rfl
  | cons c s ih =>
    unfold glyphsFrom cellWidthFrom
    split_ifs with hjoined hjoiner hselector hwide hnone
    · exact ih ..
    · exact ih ..
    · rw [ih]
      omega
    · rw [ih, cellWidthFrom_of_not_isWidenable (by simpa using hwide)]
      omega
    · exact ih ..
    · have hcons (g : Glyph) (gs : List Glyph) : glyphCells (g :: gs) = g.width + glyphCells gs := rfl
      rw [hcons, ih]

/-- A text behind a joiner takes no more cells than by itself, unless it starts with another one. -/
theorem cellWidthFrom_joined_le (h : s.head? ≠ some joiner) :
    cellWidthFrom true none s ≤ cellWidthFrom false none s := by
  cases s with
  | nil => exact Nat.le_refl _
  | cons c s =>
    have hc : c ≠ joiner := by
      rintro rfl
      exact h rfl
    simp only [cellWidthFrom, if_true, Bool.false_eq_true, if_false, hc, Option.any_none,
      Nat.zero_add]
    split_ifs
    · exact Nat.le_refl _
    · exact Nat.le_refl _
    · exact Nat.le_trans (cellWidthFrom_none_le false (some c) s) (Nat.le_add_left _ _)

theorem IsUnpaired.cellWidth_le_glyphCells (h : IsUnpaired s) :
    cellWidth s ≤ glyphCells (glyphs s) := by
  cases s with
  | nil => exact Nat.le_refl _
  | cons c s =>
    rw [glyphs, glyphCells_glyphsFrom, cellWidth]
    by_cases hjoiner : c = joiner
    · have hhead : s.head? ≠ some joiner := fun hhead =>
        (List.isChain_cons.mp h).1 joiner hhead ⟨hjoiner, rfl⟩
      have hzero : charWidth joiner = 0 := by decide
      rw [hjoiner, hzero, Nat.zero_add, if_pos rfl]
      exact cellWidthFrom_joined_le hhead
    · have hzero : charWidth emojiSelector = 0 := by decide
      simp only [cellWidthFrom, Bool.false_eq_true, if_false, hjoiner]
      split_ifs <;> simp_all

theorem cutGlyphs_eq (width : Nat) (gs : List Glyph) :
    ∃ front back blank, gs = front ++ back ∧ joiner ∉ blank ∧
      cutGlyphs width gs = front.flatMap (·.text) ++ blank := by
  induction gs generalizing width with
  | nil => exact ⟨[], [], [], rfl, List.not_mem_nil, rfl⟩
  | cons g gs ih =>
    unfold cutGlyphs
    split_ifs
    · exact ⟨[], g :: gs, [], rfl, List.not_mem_nil, rfl⟩
    · obtain ⟨front, back, blank, rfl, hblank, hcut⟩ := ih (width - g.width)
      exact ⟨g :: front, back, blank, rfl, hblank, by simp [hcut]⟩
    · exact ⟨[], g :: gs, [' '], rfl, by decide, rfl⟩

/-- A text in which no joiners meet can be cut where it reaches, and no joiners meet in what is cut
off. -/
theorem IsUnpaired.exists_cut (h : IsUnpaired s) (hwidth : width ≤ cellWidth s) :
    ∃ t, cut width s = .ok t ∧ IsUnpaired t := by
  have hcells := h.cellWidth_le_glyphCells
  simp only [cut]
  split_ifs with hzero
  · exact ⟨[], rfl, .nil⟩
  · omega
  · omega
  · refine ⟨_, rfl, ?_⟩
    obtain ⟨front, back, blank, hglyphs, hblank, hcut⟩ := cutGlyphs_eq width (glyphs s)
    have hprefix : front.flatMap (·.text) <+: s := by
      have hsplit := congrArg (List.flatMap (·.text)) hglyphs
      rw [flatMap_text_glyphs, List.flatMap_append] at hsplit
      exact ⟨_, hsplit.symm⟩
    rw [hcut]
    exact (h.of_isInfix hprefix.isInfix).append_of_not_mem hblank

end Cells

end SourceCensus.Text
