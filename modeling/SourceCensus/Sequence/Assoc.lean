/-! # Tables in insertion order -/

namespace SourceCensus.Sequence

universe u v

variable {α : Type u} {β : Type v} [DecidableEq α]

def put (key : α) (value : β) : List (α × β) → List (α × β)
  | [] => [(key, value)]
  | (k, v) :: rest => if k = key then (key, value) :: rest else (k, v) :: put key value rest

def ofWrites (writes : List (α × β)) : List (α × β) :=
  writes.foldl (fun table write => put write.1 write.2 table) []

@[simp] theorem put_nil (key : α) (value : β) : put key value [] = [(key, value)] := rfl

/-- Writing a key adds it at the end unless it is there. -/
theorem keys_put (key : α) (value : β) (table : List (α × β)) :
    (put key value table).map (·.1) =
      if key ∈ table.map (·.1) then table.map (·.1) else table.map (·.1) ++ [key] := by
  induction table with
  | nil => simp
  | cons entry rest ih =>
    obtain ⟨k, v⟩ := entry
    by_cases h : k = key
    · simp [put, h]
    · have h' : ¬ key = k := fun e => h e.symm
      simp only [put, h, if_false, List.map_cons, ih, List.mem_cons, h', false_or]
      split <;> simp

theorem mem_keys_put {key : α} {value : β} {table : List (α × β)} {k : α} :
    k ∈ (put key value table).map (·.1) ↔ k = key ∨ k ∈ table.map (·.1) := by
  rw [keys_put]
  split
  · rename_i h
    constructor
    · exact .inr
    · rintro (rfl | h')
      · exact h
      · exact h'
  · simp [or_comm]

end SourceCensus.Sequence
