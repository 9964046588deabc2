import SourceCensus.Duplication.Location

/-! # Chains of windows -/

namespace SourceCensus.Duplication

/-- The sets that a walk visits, at most `fuel` of them: each is the one before shifted by `delta`,
and the walk goes on while `mayStep` holds and the next set is confirmed. -/
def walk (confirmed : List LocationSet) (mayStep : LocationSet → Bool) (delta : Int) :
    Nat → LocationSet → List LocationSet
  | 0, _ => []
  | fuel + 1, s =>
    let next := LocationSet.shift delta s
    if mayStep s && confirmed.contains next then
      next :: walk confirmed mayStep delta fuel next
    else []

/-- Whether no location of the set is at the start of its file. -/
def canGoBack (s : LocationSet) : Bool :=
  s.all fun a => decide (0 < a.offset)

/-- The sets before a set in its chain, nearest first.  A walk of a non-empty set visits no set twice,
so the number of confirmed sets bounds it. -/
def backward (confirmed : List LocationSet) (s : LocationSet) : List LocationSet :=
  walk confirmed canGoBack (-1) confirmed.length s

def forward (confirmed : List LocationSet) (s : LocationSet) : List LocationSet :=
  walk confirmed (fun _ => true) 1 confirmed.length s

def chainStart (confirmed : List LocationSet) (s : LocationSet) : LocationSet :=
  (backward confirmed s).getLast?.getD s

def commonLength : List (List Char) → List (List Char) → Nat
  | x :: xs, y :: ys => if x = y then commonLength xs ys + 1 else 0
  | _, _ => 0

/-- The length of the longest block, of at most `size` lines, that is the same at all of the
locations. -/
def verifiedSize (files : List CodeFile) (size : Int) (s : LocationSet) : Except Fault Nat :=
  match s with
  | [] => .error .noItem
  | first :: others => do
    let reference ← textsAt files size first
    let matching ← others.mapM fun a => do return commonLength reference (← textsAt files size a)
    return matching.foldl min reference.length

@[simp] theorem commonLength_nil_left (ys : List (List Char)) : commonLength [] ys = 0 := by
  cases ys <;> rfl

@[simp] theorem commonLength_nil_right (xs : List (List Char)) : commonLength xs [] = 0 := by
  cases xs <;> rfl

end SourceCensus.Duplication
