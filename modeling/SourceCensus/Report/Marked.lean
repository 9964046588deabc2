import SourceCensus.Report.Theme

/-! # Marked text -/

namespace SourceCensus.Report

def isUnprinted (c : Char) : Bool :=
  let n := c.toNat
  n == 7 || n == 8 || n == 11 || n == 12 || n == 13

/-- The name or the description of a style for the characters from `start` up to `stop`. -/
structure Mark where
  start : Nat
  stop : Nat
  style : List Char
  deriving DecidableEq, Repr

structure Marked where
  text : List Char
  marks : List Mark := []
  deriving DecidableEq, Repr

def styleAt (marks : List (Mark × Style)) (position : Nat) : Style :=
  marks.foldl
    (fun style m =>
      if m.1.start ≤ position && position < m.1.stop then style.overlay m.2 else style)
    .plain

def isCut (marks : List (Mark × Style)) (position : Nat) : Bool :=
  marks.any fun m => m.1.start == position || m.1.stop == position

def runsFrom (marks : List (Mark × Style)) (position : Nat) : List Char → Line
  | [] => []
  | c :: rest =>
    match runsFrom marks (position + 1) rest with
    | [] => [⟨styleAt marks position, [c]⟩]
    | span :: spans =>
      if isCut marks (position + 1) then ⟨styleAt marks position, [c]⟩ :: span :: spans
      else ⟨span.style, c :: span.text⟩ :: spans

def Mark.shift (m : Mark) (count : Nat) : Mark :=
  { m with start := m.start + count, stop := m.stop + count }

namespace Marked

def ofText (s : List Char) : Marked where
  text := s.filter (! isUnprinted ·)

def runs (t : Marked) : Except Text.DigitFault Line := do
  let styles ← t.marks.mapM fun m => Style.ofText m.style
  return runsFrom (t.marks.zip styles) 0 t.text

def setText (t : Marked) (text : List Char) : Marked where
  text := text
  marks :=
    if text.length < t.text.length then
      (t.marks.filter (·.start < text.length)).map fun m => { m with stop := min m.stop text.length }
    else t.marks

def stretch (t : Marked) (start stop : Nat) : Marked where
  text := (t.text.drop start).take (stop - start)
  marks := t.marks.filterMap fun m =>
    let first := m.start - start
    let last := min m.stop stop - start
    if first < last then some { m with start := first, stop := last } else none

def stretchesFrom (t : Marked) (start : Nat) : List Nat → List Marked
  | [] => [t.stretch start t.text.length]
  | position :: rest => t.stretch start position :: t.stretchesFrom position rest

def cutAt (t : Marked) (positions : List Nat) : List Marked :=
  if positions.isEmpty then [t] else t.stretchesFrom 0 positions

/-- The stretches that pieces of the text stand for; between two of them one character is left
out. -/
def splitFrom (t : Marked) (start : Nat) : List (List Char) → List Marked
  | [] => []
  | piece :: pieces =>
    t.stretch start (start + piece.length) :: t.splitFrom (start + piece.length + 1) pieces

def splitOn (c : Char) (t : Marked) : List Marked :=
  if t.text.contains c then t.splitFrom 0 (Text.splitOn c t.text) else [t]

def append (t u : Marked) : Marked where
  text := t.text ++ u.text
  marks := t.marks ++ u.marks.map (·.shift t.text.length)

def concat (texts : List Marked) : Marked :=
  texts.foldr append ⟨[], []⟩

def padStart (t : Marked) (count : Nat) : Marked where
  text := List.replicate count ' ' ++ t.text
  marks := t.marks.map (·.shift count)

def padEnd (t : Marked) (count : Nat) : Marked :=
  { t with text := t.text ++ List.replicate count ' ' }

/-- The text with a number of blanks behind it, over which marks at the end of the text go on. -/
def extendEnd (t : Marked) (count : Nat) : Marked where
  text := t.text ++ List.replicate count ' '
  marks := t.marks.map fun m =>
    if t.text.length ≤ m.stop then { m with stop := m.stop + count } else m

end Marked

theorem flatMap_text_runsFrom (marks : List (Mark × Style)) (position : Nat) (s : List Char) :
    (runsFrom marks position s).flatMap (·.text) = s := by
  induction s generalizing position with
  | nil => rfl
  | cons c rest ih =>
    have hrest := ih (position + 1)
    unfold runsFrom
    split
    · rename_i h
      rw [h] at hrest
      simp_all
    · rename_i span spans h
      rw [h] at hrest
      split <;> simp_all

theorem Marked.flatMap_text_runs {t : Marked} {line : Line} (h : t.runs = .ok line) :
    line.flatMap (·.text) = t.text := by
  unfold Marked.runs at h
  cases hs : t.marks.mapM fun m => Style.ofText m.style with
  | error fault =>
    rw [hs] at h
    cases h
  | ok styles =>
    rw [hs] at h
    cases h
    exact flatMap_text_runsFrom _ 0 t.text

theorem Marked.flatMap_text_stretchesFrom (t : Marked) {start : Nat} {positions : List Nat}
    (h : (start :: positions).Pairwise (· ≤ ·)) :
    (t.stretchesFrom start positions).flatMap (·.text) = t.text.drop start := by
  induction positions generalizing start with
  | nil => simp [stretchesFrom, stretch, List.take_of_length_le]
  | cons position rest ih =>
    have hle : start ≤ position := by
      rw [List.pairwise_cons] at h
      exact h.1 position (by simp)
    have hdrop : t.text.drop position = (t.text.drop start).drop (position - start) := by
      rw [List.drop_drop]
      congr 1
      omega
    rw [stretchesFrom, List.flatMap_cons, ih h.of_cons, hdrop]
    exact List.take_append_drop _ _

/-- Cutting a text at ascending positions loses nothing. -/
theorem Marked.flatMap_text_cutAt (t : Marked) {positions : List Nat}
    (h : positions.Pairwise (· ≤ ·)) : (t.cutAt positions).flatMap (·.text) = t.text := by
  unfold cutAt
  split
  · simp
  · rw [flatMap_text_stretchesFrom t (List.pairwise_cons.2 ⟨by simp, h⟩)]
    simp

end SourceCensus.Report
