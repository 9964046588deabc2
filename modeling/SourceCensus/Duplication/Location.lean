import SourceCensus.Source.Normalized

/-! # Locations -/

namespace SourceCensus.Duplication

/-- A place among the code lines of a project: the position of the file and the offset in it. -/
structure Location where
  file : Int
  offset : Int
  deriving DecidableEq, Repr

namespace Location

instance : LT Location where
  lt a b := a.file < b.file ∨ a.file = b.file ∧ a.offset < b.offset

theorem lt_def (a b : Location) :
    a < b ↔ a.file < b.file ∨ a.file = b.file ∧ a.offset < b.offset := Iff.rfl

instance (a b : Location) : Decidable (a < b) :=
  decidable_of_iff (a.file < b.file ∨ a.file = b.file ∧ a.offset < b.offset) Iff.rfl

def shift (delta : Int) (a : Location) : Location :=
  ⟨a.file, a.offset + delta⟩

/-- Whether a location comes no later than another: by file, then by offset. -/
def le (a b : Location) : Bool :=
  decide (¬ b < a)

@[simp] theorem shift_zero (a : Location) : shift 0 a = a := by
  simp [shift]

theorem shift_shift (a : Location) (d e : Int) : shift d (shift e a) = shift (e + d) a := by
  simp [shift, Int.add_assoc]

theorem lt_irrefl (a : Location) : ¬ a < a := by
  rw [lt_def]
  omega

theorem lt_trans {a b c : Location} (h₁ : a < b) (h₂ : b < c) : a < c := by
  rw [lt_def] at *
  omega

theorem lt_or_eq_or_gt (a b : Location) : a < b ∨ a = b ∨ b < a := by
  cases a
  cases b
  simp only [lt_def, mk.injEq]
  omega

end Location

/-- Locations at which one block of lines stands. -/
abbrev LocationSet := List Location

namespace LocationSet

def ofList (locations : List Location) : LocationSet :=
  locations.eraseDups.mergeSort Location.le

def shift (delta : Int) (s : LocationSet) : LocationSet :=
  s.map (Location.shift delta)

/-- Whether a set comes no later than another in the lexicographic order. -/
def le (s t : LocationSet) : Bool :=
  decide (¬ (t : List Location) < s)

def sorted (sets : List LocationSet) : List LocationSet :=
  sets.mergeSort le

@[simp] theorem shift_zero (s : LocationSet) : shift 0 s = s := by
  have h : Location.shift 0 = id := funext Location.shift_zero
  simp [shift, h]

theorem shift_shift (s : LocationSet) (d e : Int) : shift d (shift e s) = shift (e + d) s := by
  simp [shift, Location.shift_shift]

@[simp] theorem length_shift (delta : Int) (s : LocationSet) :
    (shift delta s).length = s.length := by
  simp [shift]

end LocationSet

/-- What stops the detection of duplicates. -/
inductive Fault where
  | blockSizeTooSmall
  | ceilingTooLow
  | noFile
  | noItem
  /-- A severity has no place in the order of severities. -/
  | unranked (label : String)
  deriving DecidableEq, Repr

def fileAt (files : List CodeFile) (a : Location) : Except Fault CodeFile :=
  match Sequence.item? files a.file with
  | some file => .ok file
  | none => .error .noFile

def textsAt (files : List CodeFile) (size : Int) (a : Location) :
    Except Fault (List (List Char)) := do
  return (← fileAt files a).blockTexts a.offset size

end SourceCensus.Duplication
