import Mathlib.Data.List.Perm.Subperm
import SourceCensus.Duplication.Chain
import SourceCensus.Proofs.Duplication.LocationOrder

/-! # Chains of confirmed sets -/

namespace SourceCensus.Duplication

open LocationSet (shift)

section Walks

variable {confirmed : List LocationSet} {mayStep : LocationSet → Bool} {delta : Int}

theorem walk_succ_of_step {fuel : Nat} {s : LocationSet}
    (h : mayStep s = true ∧ shift delta s ∈ confirmed) :
    walk confirmed mayStep delta (fuel + 1) s =
      shift delta s :: walk confirmed mayStep delta fuel (shift delta s) := by
  simp [walk, h.1, h.2]

theorem walk_succ_of_not_step {fuel : Nat} {s : LocationSet}
    (h : ¬ (mayStep s = true ∧ shift delta s ∈ confirmed)) :
    walk confirmed mayStep delta (fuel + 1) s = [] := by
  rw [walk, if_neg]
  simpa using h

private theorem shift_step (i : Nat) (s : LocationSet) :
    shift (i * delta) (shift delta s) = shift (((i + 1 : Nat) : Int) * delta) s := by
  rw [LocationSet.shift_shift]
  congr 1
  push_cast
  rw [Int.add_mul, Int.one_mul, Int.add_comm]

/-- A walk visits the shifts of its first set in order. -/
theorem walk_eq_map (fuel : Nat) (s : LocationSet) :
    walk confirmed mayStep delta fuel s =
      (List.range (walk confirmed mayStep delta fuel s).length).map
        fun (i : Nat) => shift (((i + 1 : Nat) : Int) * delta) s := by
  induction fuel generalizing s with
  | zero => rfl
  | succ fuel ih =>
    by_cases h : mayStep s = true ∧ shift delta s ∈ confirmed
    · rw [walk_succ_of_step h, List.length_cons, List.range_succ_eq_map, List.map_cons,
        List.map_map]
      congr 1
      · simp
      · rw [ih]
        simp only [List.length_map, List.length_range, shift_step, Function.comp_def]
    · rw [walk_succ_of_not_step h]
      rfl

theorem getLast_walk (fuel : Nat) (s : LocationSet) :
    (walk confirmed mayStep delta fuel s).getLast?.getD s =
      shift ((walk confirmed mayStep delta fuel s).length * delta) s := by
  rw [walk_eq_map]
  generalize (walk confirmed mayStep delta fuel s).length = n
  cases n with
  | zero => simp
  | succ n => simp [List.range_succ]

theorem length_walk_le (fuel : Nat) (s : LocationSet) :
    (walk confirmed mayStep delta fuel s).length ≤ fuel := by
  induction fuel generalizing s with
  | zero => exact Nat.le_refl 0
  | succ fuel ih =>
    by_cases h : mayStep s = true ∧ shift delta s ∈ confirmed
    · rw [walk_succ_of_step h]
      exact Nat.succ_le_succ (ih _)
    · rw [walk_succ_of_not_step h]
      exact Nat.zero_le _

theorem step_of_lt_length_walk {fuel i : Nat} {s : LocationSet}
    (h : i < (walk confirmed mayStep delta fuel s).length) :
    mayStep (shift (i * delta) s) = true ∧ shift (((i + 1 : Nat) : Int) * delta) s ∈ confirmed := by
  induction fuel generalizing s i with
  | zero => simp [walk] at h
  | succ fuel ih =>
    by_cases hs : mayStep s = true ∧ shift delta s ∈ confirmed
    · rw [walk_succ_of_step hs, List.length_cons] at h
      cases i with
      | zero => simpa using hs
      | succ i =>
        have hi := ih (Nat.lt_of_succ_lt_succ h)
        rwa [shift_step, shift_step] at hi
    · simp [walk_succ_of_not_step hs] at h

/-- A walk with fuel left has stopped where no step could be taken. -/
theorem not_step_of_length_walk_lt {fuel : Nat} {s : LocationSet}
    (h : (walk confirmed mayStep delta fuel s).length < fuel) :
    ¬ (mayStep (shift ((walk confirmed mayStep delta fuel s).length * delta) s) = true ∧
      shift ((((walk confirmed mayStep delta fuel s).length + 1 : Nat) : Int) * delta) s ∈
        confirmed) := by
  induction fuel generalizing s with
  | zero => omega
  | succ fuel ih =>
    by_cases hs : mayStep s = true ∧ shift delta s ∈ confirmed
    · rw [walk_succ_of_step hs, List.length_cons] at h ⊢
      have hn := ih (Nat.lt_of_succ_lt_succ h)
      rwa [shift_step, shift_step] at hn
    · simpa [walk_succ_of_not_step hs] using hs

/-- The number of confirmed sets is fuel enough for a walk of a set that has a location: the walk
stops only where no step can be taken. -/
theorem not_step_at_end {s : LocationSet} (hs : s ≠ []) (hd : delta ≠ 0) {n : Nat}
    (hn : n = (walk confirmed mayStep delta confirmed.length s).length) :
    ¬ (mayStep (shift (n * delta) s) = true ∧
      shift (((n + 1 : Nat) : Int) * delta) s ∈ confirmed) := by
  subst hn
  have hle : (walk confirmed mayStep delta confirmed.length s).length ≤ confirmed.length :=
    length_walk_le _ s
  rcases Nat.lt_or_eq_of_le hle with h | h
  · exact not_step_of_length_walk_lt h
  · rintro ⟨-, hmem⟩
    let visited := (List.range (confirmed.length + 1)).map
      fun (i : Nat) => shift (((i + 1 : Nat) : Int) * delta) s
    have hnodup : visited.Nodup := by
      refine List.Nodup.map (fun i j hij => ?_) List.nodup_range
      have hij' := Int.eq_of_mul_eq_mul_right hd (LocationSet.shift_right_injective hs hij)
      omega
    have hsub : visited ⊆ confirmed := by
      intro t ht
      obtain ⟨i, hi, rfl⟩ := List.mem_map.mp ht
      rw [List.mem_range, Nat.lt_succ_iff_lt_or_eq] at hi
      rcases hi with hi | rfl
      · exact (step_of_lt_length_walk (h ▸ hi)).2
      · rwa [h] at hmem
    have hlen := (hnodup.subperm hsub).length_le
    simp only [visited, List.length_map, List.length_range] at hlen
    omega

/-- The sets that a walk without any bound visits from a set on until it stops.  A walk that went on
for ever would visit no such list. -/
inductive Walks (confirmed : List LocationSet) (mayStep : LocationSet → Bool) (delta : Int) :
    LocationSet → List LocationSet → Prop
  | stop {s : LocationSet} (h : ¬ (mayStep s = true ∧ shift delta s ∈ confirmed)) :
    Walks confirmed mayStep delta s []
  | step {s : LocationSet} {visited : List LocationSet}
      (h : mayStep s = true ∧ shift delta s ∈ confirmed)
      (rest : Walks confirmed mayStep delta (shift delta s) visited) :
    Walks confirmed mayStep delta s (shift delta s :: visited)

private theorem walks_of_not_step_at_end {fuel n : Nat} {s : LocationSet}
    (hn : n = (walk confirmed mayStep delta fuel s).length)
    (hend : ¬ (mayStep (shift (n * delta) s) = true ∧
      shift (((n + 1 : Nat) : Int) * delta) s ∈ confirmed)) :
    Walks confirmed mayStep delta s (walk confirmed mayStep delta fuel s) := by
  induction fuel generalizing s n with
  | zero =>
    subst hn
    exact .stop (by simpa [walk] using hend)
  | succ fuel ih =>
    by_cases h : mayStep s = true ∧ shift delta s ∈ confirmed
    · rw [walk_succ_of_step h] at hn ⊢
      rw [hn, List.length_cons, ← shift_step, ← shift_step] at hend
      exact .step h (ih rfl hend)
    · rw [walk_succ_of_not_step h]
      exact .stop h

/-- The walk of a set that has a location ends by itself, and it visits what the walk with fuel
does. -/
theorem walks_walk {s : LocationSet} (hs : s ≠ []) (hd : delta ≠ 0) :
    Walks confirmed mayStep delta s (walk confirmed mayStep delta confirmed.length s) :=
  walks_of_not_step_at_end rfl (not_step_at_end hs hd rfl)

end Walks

variable {confirmed : List LocationSet} {s t start start' : LocationSet} {last last' : Nat}

def shifts (start : LocationSet) (count : Nat) : List LocationSet :=
  (List.range count).map fun (j : Nat) => shift j start

theorem mem_shifts {count : Nat} : t ∈ shifts start count ↔ ∃ j < count, t = shift j start := by
  simp [shifts, eq_comm]

theorem nodup_shifts (h : start ≠ []) (count : Nat) : (shifts start count).Nodup :=
  List.Nodup.map (fun _ _ hij => Int.ofNat.inj (LocationSet.shift_right_injective h hij))
    List.nodup_range

/-- Confirmed sets that follow each other line by line, from `start` on to its shift by `last`;
neither the set before nor the set after them is confirmed. -/
structure MaximalRun (confirmed : List LocationSet) (start : LocationSet) (last : Nat) : Prop where
  mem : ∀ j : Nat, j ≤ last → shift j start ∈ confirmed
  before : shift (-1) start ∉ confirmed
  after : shift (last + 1) start ∉ confirmed

namespace MaximalRun

theorem start_mem (h : MaximalRun confirmed start last) : start ∈ confirmed := by
  simpa using h.mem 0 (Nat.zero_le _)

theorem start_ne_nil (h : MaximalRun confirmed start last) : start ≠ [] := by
  rintro rfl
  exact h.before h.start_mem

private theorem not_lt_of_shift_eq (h : MaximalRun confirmed start last)
    (h' : MaximalRun confirmed start' last') {i j : Nat} (hi : i ≤ last)
    (heq : shift i start = shift j start') : ¬ j < i := by
  intro hlt
  apply h'.before
  have hshift := congrArg (shift (-(j : Int) - 1)) heq
  rw [LocationSet.shift_shift, LocationSet.shift_shift] at hshift
  have hr : (j : Int) + (-(j : Int) - 1) = -1 := by omega
  have hl : (i : Int) + (-(j : Int) - 1) = ((i - j - 1 : Nat) : Int) := by omega
  rw [hr, hl] at hshift
  rw [← hshift]
  exact h.mem _ (by omega)

private theorem not_lt_last (h : MaximalRun confirmed start last)
    (h' : MaximalRun confirmed start last') : ¬ last < last' := by
  intro hlt
  apply h.after
  simpa using h'.mem (last + 1) hlt

/-- Maximal runs that share a set are the same. -/
theorem eq_of_shift_eq (h : MaximalRun confirmed start last)
    (h' : MaximalRun confirmed start' last') {i j : Nat} (hi : i ≤ last) (hj : j ≤ last')
    (heq : shift i start = shift j start') : start = start' ∧ last = last' := by
  have hij : i = j := by
    have h₁ := h.not_lt_of_shift_eq h' hi heq
    have h₂ := h'.not_lt_of_shift_eq h hj heq.symm
    omega
  subst hij
  obtain rfl := LocationSet.shift_injective i heq
  have h₁ := h.not_lt_last h'
  have h₂ := h'.not_lt_last h
  exact ⟨rfl, by omega⟩

end MaximalRun

/-- Every set has a location, and none at a negative offset. -/
def Placed (sets : List LocationSet) : Prop :=
  ∀ s ∈ sets, s ≠ [] ∧ ∀ a ∈ s, 0 ≤ a.offset

theorem chainStart_eq :
    chainStart confirmed s = shift (-((backward confirmed s).length : Int)) s := by
  rw [chainStart, backward, getLast_walk, Int.mul_neg_one]

/-- A walk back from a confirmed set ends before the file does, since no confirmed set reaches
beyond the start of a file. -/
theorem canGoBack_of_mem (hp : Placed confirmed) (h : shift (-1) s ∈ confirmed) :
    canGoBack s = true := by
  simp only [canGoBack, List.all_eq_true, decide_eq_true_eq]
  intro a ha
  have ho := (hp _ h).2 (Location.shift (-1) a) (LocationSet.mem_shift.mpr ha)
  simp only [Location.shift] at ho
  omega

/-- The walks from a confirmed set span a maximal run. -/
theorem maximalRun_chainStart (hp : Placed confirmed) (hs : s ∈ confirmed) :
    MaximalRun confirmed (chainStart confirmed s)
      ((backward confirmed s).length + (forward confirmed s).length) := by
  have hne := (hp s hs).1
  rw [chainStart_eq]
  constructor
  · intro j hj
    rw [LocationSet.shift_shift]
    rcases Nat.lt_trichotomy j (backward confirmed s).length with h | h | h
    · have hm := (step_of_lt_length_walk
        (show (backward confirmed s).length - 1 - j < (backward confirmed s).length by omega)).2
      convert hm using 2
      omega
    · rwa [h, Int.add_left_neg, LocationSet.shift_zero]
    · have hm := (step_of_lt_length_walk (show j - (backward confirmed s).length - 1 <
        (forward confirmed s).length by omega)).2
      convert hm using 2
      omega
  · intro hmem
    rw [LocationSet.shift_shift] at hmem
    apply not_step_at_end hne (by decide : (-1 : Int) ≠ 0)
      (rfl : (backward confirmed s).length = _)
    have hback : shift (-1) (shift (((backward confirmed s).length : Int) * -1) s) ∈ confirmed := by
      rw [LocationSet.shift_shift]
      convert hmem using 2
      omega
    refine ⟨canGoBack_of_mem hp hback, ?_⟩
    convert hmem using 2
    omega
  · intro hmem
    rw [LocationSet.shift_shift] at hmem
    apply not_step_at_end hne (by decide : (1 : Int) ≠ 0) (rfl : (forward confirmed s).length = _)
    refine ⟨rfl, ?_⟩
    convert hmem using 2
    omega

/-- A set stands in the run that its walks span. -/
theorem shift_chainStart (confirmed : List LocationSet) (s : LocationSet) :
    shift ((backward confirmed s).length : Int) (chainStart confirmed s) = s := by
  rw [chainStart_eq, LocationSet.shift_shift, Int.add_left_neg, LocationSet.shift_zero]

private theorem mem_backward : t ∈ backward confirmed s ↔
    ∃ i < (backward confirmed s).length, t = shift (-((i + 1 : Nat) : Int)) s := by
  have h : backward confirmed s = _ := walk_eq_map confirmed.length s
  conv_lhs => rw [h]
  simp [eq_comm, backward]

private theorem mem_forward : t ∈ forward confirmed s ↔
    ∃ i < (forward confirmed s).length, t = shift ((i + 1 : Nat) : Int) s := by
  have h : forward confirmed s = _ := walk_eq_map confirmed.length s
  conv_lhs => rw [h]
  simp [eq_comm, forward]

/-- What the walks visit, with the set they start from, is the whole run. -/
theorem mem_visited : t ∈ s :: (backward confirmed s ++ forward confirmed s) ↔
    t ∈ shifts (chainStart confirmed s)
      ((backward confirmed s).length + (forward confirmed s).length + 1) := by
  have hshift (j : Int) : shift j (chainStart confirmed s) =
      shift (j - (backward confirmed s).length) s := by
    rw [chainStart_eq, LocationSet.shift_shift]
    congr 1
    omega
  simp only [List.mem_cons, List.mem_append, mem_backward, mem_forward, mem_shifts, hshift]
  constructor
  · rintro (rfl | ⟨i, hi, rfl⟩ | ⟨i, hi, rfl⟩)
    · exact ⟨(backward confirmed t).length, by omega, by simp⟩
    · refine ⟨(backward confirmed s).length - 1 - i, by omega, ?_⟩
      congr 1
      omega
    · refine ⟨(backward confirmed s).length + 1 + i, by omega, ?_⟩
      congr 1
      omega
  · rintro ⟨j, hj, rfl⟩
    rcases Nat.lt_trichotomy j (backward confirmed s).length with h | h | h
    · refine .inr (.inl ⟨(backward confirmed s).length - 1 - j, by omega, ?_⟩)
      congr 1
      omega
    · exact .inl (by simp [h])
    · refine .inr (.inr ⟨j - (backward confirmed s).length - 1, by omega, ?_⟩)
      congr 1
      omega

end SourceCensus.Duplication
