import SourceCensus.Text.Search

/-! # Globs -/

namespace SourceCensus.Ignore

/-- What a segment is made of. -/
inductive Token where
  | exact (c : Char)
  | many
  | one
  /-- A bracket with its text between the brackets, the sign of negation apart. -/
  | bracket (negated : Bool) (body : List Char)
  deriving DecidableEq, Repr

/-- Why a segment cannot be read. -/
inductive GlobFlaw where
  | unclosed
  | danglingBackslash
  deriving DecidableEq, Repr

def splitNegation : List Char → Bool × List Char
  | '!' :: rest => (true, rest)
  | '^' :: rest => (true, rest)
  | rest => (false, rest)

/-- Splits a text at its first closing bracket.  One at the very start belongs to the body. -/
def splitBody (s : List Char) : Option (List Char × List Char) :=
  let (lead, rest) := match s with
    | ']' :: more => ([']'], more)
    | more => ([], more)
  match rest.dropWhile (· != ']') with
  | [] => none
  | _ :: after => some (lead ++ rest.takeWhile (· != ']'), after)

theorem splitNegation_length_le (s : List Char) : (splitNegation s).2.length ≤ s.length := by
  unfold splitNegation
  split <;> simp

theorem splitBody_length_lt {s body after : List Char} (h : splitBody s = some (body, after)) :
    after.length < s.length := by
  have drop_le (l : List Char) : (l.dropWhile (· != ']')).length ≤ l.length :=
    (List.dropWhile_sublist _).length_le
  unfold splitBody at h
  split at h
  rename_i lead rest heq
  have hrest : rest.length ≤ s.length := by
    split at heq <;> cases heq <;> simp
  split at h
  · exact absurd h (by simp)
  · rename_i c tail hdrop
    cases h
    have := drop_le rest
    rw [hdrop] at this
    simp only [List.length_cons] at this
    omega

def tokens (s : List Char) : Except GlobFlaw (List Token) :=
  match s with
  | [] => .ok []
  | '\\' :: rest =>
    match rest with
    | [] => .error .danglingBackslash
    | c :: more => return .exact c :: (← tokens more)
  | '*' :: rest => return .many :: (← tokens rest)
  | '?' :: rest => return .one :: (← tokens rest)
  | '[' :: rest =>
    match h : splitBody (splitNegation rest).2 with
    | none => .error .unclosed
    | some (body, after) => return .bracket (splitNegation rest).1 body :: (← tokens after)
  | c :: rest => return .exact c :: (← tokens rest)
termination_by s.length
decreasing_by
  all_goals simp only [List.length_cons]
  all_goals first
    | omega
    | exact Nat.lt_succ_of_lt
        (Nat.lt_of_lt_of_le (splitBody_length_lt h) (splitNegation_length_le rest))

/-- A set of characters: ranges of code points, or all that lie in none of them. -/
structure CharSet where
  negated : Bool
  ranges : List (Char × Char)
  deriving DecidableEq, Repr

def CharSet.holds (set : CharSet) (c : Char) : Bool :=
  set.ranges.any (fun range => range.1 ≤ c && c ≤ range.2) != set.negated

/-- The ranges that the body of a bracket lists; none when one of them is reversed.  A hyphen at
either end stands for itself. -/
def ranges? : List Char → Option (List (Char × Char))
  | [] => some []
  | [a] => some [(a, a)]
  | [a, '-'] => some [(a, a), ('-', '-')]
  | a :: '-' :: b :: rest =>
    if b < a then none else (ranges? rest).map ((a, b) :: ·)
  | a :: b :: rest => (ranges? (b :: rest)).map ((a, a) :: ·)

end SourceCensus.Ignore
