/-! # Signed positions -/

namespace SourceCensus.Sequence

universe u

variable {α : Type u}

/-- The cut between items that a signed position names in a sequence of `length` items. -/
def clamp (length : Nat) (position : Int) : Nat :=
  if position < 0 then (length + position).toNat else min position.toNat length

def slice (items : List α) (start stop : Int) : List α :=
  let first := clamp items.length start
  (items.drop first).take (clamp items.length stop - first)

def item? (items : List α) (position : Int) : Option α :=
  if position < 0 then
    if 0 ≤ items.length + position then items[(items.length + position).toNat]? else none
  else items[position.toNat]?

/-- For a start that is not negative, a slice of a given size is a drop and a take. -/
theorem slice_add_of_nonneg (items : List α) {start size : Int} (h₀ : 0 ≤ start)
    (h₁ : 0 ≤ size) :
    slice items start (start + size) = (items.drop start.toNat).take size.toNat := by
  have hs : ¬ start < 0 := by omega
  have ht : ¬ start + size < 0 := by omega
  simp only [slice, clamp, hs, ht, if_false]
  by_cases h : start.toNat ≤ items.length
  · rw [Nat.min_eq_left h]
    by_cases h₂ : (start + size).toNat ≤ items.length
    · rw [Nat.min_eq_left h₂]
      congr 1
      omega
    · rw [Nat.min_eq_right (by omega), List.take_of_length_le (by simp),
        List.take_of_length_le (by simp only [List.length_drop]; omega)]
  · have hm : min start.toNat items.length = items.length := by omega
    rw [hm, List.drop_of_length_le (Nat.le_refl _),
      List.drop_of_length_le (by omega : items.length ≤ start.toNat)]
    simp

theorem clamp_natCast {length position : Nat} (h : position ≤ length) :
    clamp length position = position := by
  have hnonneg : ¬ (position : Int) < 0 := by omega
  rw [clamp, if_neg hnonneg, Int.toNat_natCast, Nat.min_eq_left h]

theorem item?_of_nonneg (items : List α) {position : Int} (h : 0 ≤ position) :
    item? items position = items[position.toNat]? := by
  simp [item?, Int.not_lt.mpr h]

theorem item?_natCast (items : List α) (position : Nat) :
    item? items position = (items.drop position).head? := by
  rw [item?_of_nonneg items (Int.natCast_nonneg position), Int.toNat_natCast, List.head?_drop]

end SourceCensus.Sequence
