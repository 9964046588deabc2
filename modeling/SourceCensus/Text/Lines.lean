import SourceCensus.Text.Blank

/-! # Lines -/

namespace SourceCensus.Text

def dropReturn (line : List Char) : List Char :=
  if line.getLast? = some '\r' then line.dropLast else line

/-- The lines of source text.  The last line needs no terminator, and a text that ends with one has
no empty line after it. -/
def sourceLines (text : List Char) : List (List Char) :=
  match h : text.dropWhile (· != '\n') with
  | [] => if text.isEmpty then [] else [text]
  | _ :: rest => dropReturn (text.takeWhile (· != '\n')) :: sourceLines rest
termination_by text.length
decreasing_by
  have h₁ : (text.dropWhile (· != '\n')).length ≤ text.length :=
    (List.dropWhile_sublist _).length_le
  rw [h] at h₁
  simp only [List.length_cons] at h₁
  omega

/-- A text in which each carriage return with a line feed after it is left out. -/
def unifyBreaks : List Char → List Char
  | '\r' :: '\n' :: rest => '\n' :: unifyBreaks rest
  | c :: rest => c :: unifyBreaks rest
  | [] => []

/-- A text in which every line ends with a line feed, whether it ended with a line feed, a carriage
return or both. -/
def uniformBreaks (text : List Char) : List Char :=
  (unifyBreaks text).map fun c => if c = '\r' then '\n' else c

def isBreak (c : Char) : Bool :=
  let n := c.toNat
  (0x0A ≤ n && n ≤ 0x0D) || (0x1C ≤ n && n ≤ 0x1E) || n == 0x85 || n == 0x2028 || n == 0x2029

/-- What follows a line boundary: a carriage return takes a line feed after it along. -/
def afterBreak (c : Char) (rest : List Char) : List Char :=
  match rest with
  | '\n' :: more => if c = '\r' then more else rest
  | _ => rest

theorem afterBreak_length_le (c : Char) (rest : List Char) :
    (afterBreak c rest).length ≤ rest.length := by
  unfold afterBreak
  split
  · split <;> simp
  · exact Nat.le_refl _

def boundaryLines (text : List Char) : List (List Char) :=
  match h : text.dropWhile (! isBreak ·) with
  | [] => if text.isEmpty then [] else [text]
  | c :: rest => text.takeWhile (! isBreak ·) :: boundaryLines (afterBreak c rest)
termination_by text.length
decreasing_by
  have h₁ : (text.dropWhile (! isBreak ·)).length ≤ text.length :=
    (List.dropWhile_sublist _).length_le
  have h₂ := afterBreak_length_le c rest
  rw [h] at h₁
  simp only [List.length_cons] at h₁
  omega

/-- The first line of a text in which a carriage return ends a line as a line feed does. -/
def firstLine (text : List Char) : List Char :=
  text.takeWhile (fun c => c != '\n' && c != '\r')

@[simp] theorem sourceLines_nil : sourceLines [] = [] := by
  rw [sourceLines]
  simp

end SourceCensus.Text
