/-! # Searching a text -/

namespace SourceCensus.Text

/-- The position of the first occurrence of `pattern`.  The empty pattern occurs at every position,
the end included. -/
def find? (pattern : List Char) : List Char → Option Nat
  | [] => if pattern.isEmpty then some 0 else none
  | c :: rest =>
    if pattern.isPrefixOf (c :: rest) then some 0 else (find? pattern rest).map (· + 1)

def afterLast (c : Char) (s : List Char) : List Char :=
  (s.reverse.takeWhile (· != c)).reverse

def splitLast? (c : Char) (s : List Char) : Option (List Char × List Char) :=
  match s.reverse.dropWhile (· != c) with
  | [] => none
  | _ :: before => some (before.reverse, afterLast c s)

def splitOn (c : Char) : List Char → List (List Char)
  | [] => [[]]
  | d :: rest =>
    if d = c then [] :: splitOn c rest
    else
      match splitOn c rest with
      | [] => [[d]]
      | piece :: pieces => (d :: piece) :: pieces

def join (separator : List Char) : List (List Char) → List Char
  | [] => []
  | [piece] => piece
  | piece :: pieces => piece ++ separator ++ join separator pieces

@[simp] theorem find?_nil (pattern : List Char) :
    find? pattern [] = if pattern.isEmpty then some 0 else none := rfl

@[simp] theorem splitOn_nil (c : Char) : splitOn c [] = [[]] := rfl

theorem splitOn_ne_nil (c : Char) (s : List Char) : splitOn c s ≠ [] := by
  cases s with
  | nil => simp
  | cons d rest =>
    unfold splitOn
    split
    · simp
    · split <;> simp

theorem splitOn_cons_self (c : Char) (s : List Char) :
    splitOn c (c :: s) = [] :: splitOn c s := by
  simp [splitOn]

@[simp] theorem join_nil (separator : List Char) : join separator [] = [] := rfl

@[simp] theorem join_singleton (separator piece : List Char) :
    join separator [piece] = piece := rfl

theorem join_cons_cons (separator piece next : List Char) (pieces : List (List Char)) :
    join separator (piece :: next :: pieces) =
      piece ++ separator ++ join separator (next :: pieces) := rfl

end SourceCensus.Text
