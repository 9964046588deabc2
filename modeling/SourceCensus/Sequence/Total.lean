/-! # Totals -/

namespace SourceCensus.Sequence

def total (numbers : List Int) : Int :=
  numbers.foldr (fun n rest => n + rest) 0

@[simp] theorem total_nil : total [] = 0 := rfl

@[simp] theorem total_cons (n : Int) (numbers : List Int) :
    total (n :: numbers) = n + total numbers := rfl

theorem total_append (a b : List Int) : total (a ++ b) = total a + total b := by
  induction a with
  | nil => simp
  | cons n rest ih => simp [ih, Int.add_assoc]

def totalNat (numbers : List Nat) : Nat :=
  numbers.foldr (fun n rest => n + rest) 0

@[simp] theorem totalNat_nil : totalNat [] = 0 := rfl

@[simp] theorem totalNat_cons (n : Nat) (numbers : List Nat) :
    totalNat (n :: numbers) = n + totalNat numbers := rfl

end SourceCensus.Sequence
