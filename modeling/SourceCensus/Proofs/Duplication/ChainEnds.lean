import Mathlib.Order.Bounds.Basic
import SourceCensus.Proofs.Duplication.Chains

/-! # The ends of a chain -/

namespace SourceCensus.Duplication

open LocationSet (shift)

variable {confirmed : List LocationSet} {mayStep : LocationSet → Bool} {delta : Int}
  {s : LocationSet} {visited : List LocationSet}

/-- Where a walk stands: the set that it has come to, the number of its steps, and all sets that are
consumed. -/
structure WalkState where
  here : LocationSet
  steps : Nat
  consumed : List LocationSet
  deriving DecidableEq, Repr

def WalkState.next (delta : Int) (w : WalkState) : WalkState :=
  ⟨shift delta w.here, w.steps + 1, shift delta w.here :: w.consumed⟩

/-- The loop of a walk, from where it stands to where it ends.  A loop that went on for ever would end
nowhere. -/
inductive WalksTo (confirmed : List LocationSet) (mayStep : LocationSet → Bool) (delta : Int) :
    WalkState → WalkState → Prop
  | stop {w : WalkState} (h : ¬ (mayStep w.here = true ∧ shift delta w.here ∈ confirmed)) :
    WalksTo confirmed mayStep delta w w
  | step {w w' : WalkState} (h : mayStep w.here = true ∧ shift delta w.here ∈ confirmed)
      (rest : WalksTo confirmed mayStep delta (w.next delta) w') :
    WalksTo confirmed mayStep delta w w'

/-- A walk from `s` that ends, having visited the sets `visited`. -/
structure EndsAfter (confirmed : List LocationSet) (mayStep : LocationSet → Bool) (delta : Int)
    (s : LocationSet) (visited : List LocationSet) : Prop where
  visited_eq : visited =
    (List.range visited.length).map fun (i : Nat) => shift (((i + 1 : Nat) : Int) * delta) s
  /-- The loop ends, whatever was consumed before, -/
  ends : ∀ consumed, ∃ w, WalksTo confirmed mayStep delta ⟨s, 0, consumed⟩ w
  /-- at the last of these sets, with their number, and with no other sets consumed. -/
  final : ∀ consumed w, WalksTo confirmed mayStep delta ⟨s, 0, consumed⟩ w →
    w.here = shift (visited.length * delta) s ∧ w.steps = visited.length ∧
      ∀ t, t ∈ w.consumed ↔ t ∈ consumed ∨ t ∈ visited

section Loop

theorem WalksTo.unique {w w' w'' : WalkState} (h : WalksTo confirmed mayStep delta w w')
    (h' : WalksTo confirmed mayStep delta w w'') : w' = w'' := by
  induction h with
  | stop hstop =>
    cases h' with
    | stop => rfl
    | step hstep => exact absurd hstep hstop
  | step hstep _ ih =>
    cases h' with
    | stop hstop => exact absurd hstep hstop
    | step _ hrest => exact ih hrest

/-- The loop counts and consumes the sets that the walk visits. -/
theorem Walks.walksTo (h : Walks confirmed mayStep delta s visited) (steps : Nat)
    (consumed : List LocationSet) :
    WalksTo confirmed mayStep delta ⟨s, steps, consumed⟩
      ⟨visited.getLast?.getD s, steps + visited.length, visited.reverse ++ consumed⟩ := by
  induction h generalizing steps consumed with
  | stop hstop => exact .stop hstop
  | @step s visited hstep _ ih =>
    apply WalksTo.step hstep
    have hlast : (shift delta s :: visited).getLast?.getD s =
        visited.getLast?.getD (shift delta s) := by
      rw [List.getLast?_cons, Option.getD_some]
    rw [hlast, List.length_cons, List.reverse_cons, List.append_assoc, List.singleton_append,
      Nat.add_comm visited.length, ← Nat.add_assoc]
    exact ih (steps + 1) (shift delta s :: consumed)

/-- From a set that has a location the walk without any bound ends as the one with fuel does. -/
theorem endsAfter_walk (hs : s ≠ []) (hd : delta ≠ 0) :
    EndsAfter confirmed mayStep delta s (walk confirmed mayStep delta confirmed.length s) := by
  have hwalks : Walks confirmed mayStep delta s _ := walks_walk hs hd
  refine ⟨walk_eq_map _ s, fun consumed => ⟨_, hwalks.walksTo 0 consumed⟩, fun consumed w h => ?_⟩
  obtain rfl := h.unique (hwalks.walksTo 0 consumed)
  refine ⟨getLast_walk _ s, Nat.zero_add _, fun t => ?_⟩
  rw [List.mem_append, List.mem_reverse, or_comm]

/-- The walk is as long as there are steps that can be taken. -/
theorem isGreatest_length_walk {Reaches : Nat → Prop} (hs : s ≠ []) (hd : delta ≠ 0)
    (h : ∀ n, Reaches n ↔ ∀ i < n, mayStep (shift (i * delta) s) = true ∧
      shift (((i + 1 : Nat) : Int) * delta) s ∈ confirmed) :
    IsGreatest {n : Nat | Reaches n} (walk confirmed mayStep delta confirmed.length s).length := by
  constructor
  · exact (h _).mpr fun i hi => step_of_lt_length_walk hi
  · intro n hn
    by_contra hlt
    exact not_step_at_end hs hd rfl ((h n).mp hn _ (Nat.lt_of_not_le hlt))

end Loop

section Ends

theorem canGoBack_shift_iff {i : Nat} :
    canGoBack (shift (-(i : Int)) s) = true ↔ ∀ a ∈ s, (i : Int) < a.offset := by
  rw [canGoBack, shift, List.all_map, List.all_eq_true]
  refine forall₂_congr fun a _ => ?_
  rw [Function.comp_apply, decide_eq_true_eq]
  simp only [Location.shift]
  omega

/-- The shifts forward are confirmed up to the end of the walk and no further. -/
theorem isGreatest_length_forward (confirmed : List LocationSet) (hs : s ≠ []) :
    IsGreatest {f : Nat | ∀ i : Nat, 1 ≤ i → i ≤ f → shift i s ∈ confirmed}
      (forward confirmed s).length := by
  apply isGreatest_length_walk hs (by decide : (1 : Int) ≠ 0)
  intro f
  simp only [true_and, Int.mul_one]
  constructor
  · intro h i hi
    exact h (i + 1) (Nat.le_add_left 1 i) hi
  · intro h i hi hf
    obtain ⟨i, rfl⟩ := Nat.exists_eq_add_of_le' hi
    exact h i hf

/-- The shifts back are confirmed, and in their files, up to the end of the walk and no further. -/
theorem isGreatest_length_backward (confirmed : List LocationSet) (hs : s ≠ [])
    (hoffset : ∀ a ∈ s, 0 ≤ a.offset) :
    IsGreatest {b : Nat | (∀ a ∈ s, (b : Int) ≤ a.offset) ∧
      ∀ i : Nat, 1 ≤ i → i ≤ b → shift (-(i : Int)) s ∈ confirmed} (backward confirmed s).length := by
  apply isGreatest_length_walk hs (by decide : (-1 : Int) ≠ 0)
  intro b
  simp only [Int.mul_neg_one, canGoBack_shift_iff]
  constructor
  · rintro ⟨hb, h⟩ i hi
    refine ⟨fun a ha => ?_, h (i + 1) (Nat.le_add_left 1 i) hi⟩
    have hba := hb a ha
    omega
  · intro h
    constructor
    · intro a ha
      cases b with
      | zero => exact hoffset a ha
      | succ b =>
        have hba := (h b (Nat.lt_succ_self b)).1 a ha
        omega
    · intro i hi hib
      obtain ⟨i, rfl⟩ := Nat.exists_eq_add_of_le' hi
      exact (h i hib).2

end Ends

/-- From a set that has a location, and none at a negative offset, both walks end.  The walk forward
goes up to the last shift such that all shifts on the way are confirmed.  The walk back goes down to
the last such shift that no file begins after, and this shift is where the chain starts.  Each of them
consumes the shifts on its way and nothing else. -/
theorem walks_end_with_chain (confirmed : List LocationSet) (hs : s ≠ [])
    (hoffset : ∀ a ∈ s, 0 ≤ a.offset) :
    EndsAfter confirmed (fun _ => true) 1 s (forward confirmed s) ∧
    IsGreatest {f : Nat | ∀ i : Nat, 1 ≤ i → i ≤ f → shift i s ∈ confirmed}
      (forward confirmed s).length ∧
    EndsAfter confirmed canGoBack (-1) s (backward confirmed s) ∧
    IsGreatest {b : Nat | (∀ a ∈ s, (b : Int) ≤ a.offset) ∧
      ∀ i : Nat, 1 ≤ i → i ≤ b → shift (-(i : Int)) s ∈ confirmed} (backward confirmed s).length ∧
    chainStart confirmed s = shift (-((backward confirmed s).length : Int)) s :=
  ⟨endsAfter_walk hs (by decide), isGreatest_length_forward confirmed hs,
    endsAfter_walk hs (by decide), isGreatest_length_backward confirmed hs hoffset, chainStart_eq⟩

/-- Three windows in a row at two locations, and one by itself further on. -/
def brokenChain : List LocationSet :=
  [[⟨0, 1⟩, ⟨1, 4⟩], [⟨0, 2⟩, ⟨1, 5⟩], [⟨0, 0⟩, ⟨1, 3⟩], [⟨0, 4⟩, ⟨1, 7⟩]]

/-- From the middle of the three both walks take one step, and what was consumed before stays. -/
theorem brokenChain_walks :
    ([⟨0, 1⟩, ⟨1, 4⟩] : LocationSet) ≠ [] ∧
    (∀ a ∈ ([⟨0, 1⟩, ⟨1, 4⟩] : LocationSet), 0 ≤ a.offset) ∧
    (∀ w, WalksTo brokenChain (fun _ => true) 1 ⟨[⟨0, 1⟩, ⟨1, 4⟩], 0, [[⟨2, 0⟩]]⟩ w →
      w.here = [⟨0, 2⟩, ⟨1, 5⟩] ∧ w.steps = 1 ∧
        ∀ t, t ∈ w.consumed ↔ t ∈ [[⟨2, 0⟩]] ∨ t ∈ [[⟨0, 2⟩, ⟨1, 5⟩]]) ∧
    ∀ w, WalksTo brokenChain canGoBack (-1) ⟨[⟨0, 1⟩, ⟨1, 4⟩], 0, [[⟨2, 0⟩]]⟩ w →
      w.here = [⟨0, 0⟩, ⟨1, 3⟩] ∧ w.steps = 1 ∧
        ∀ t, t ∈ w.consumed ↔ t ∈ [[⟨2, 0⟩]] ∨ t ∈ [[⟨0, 0⟩, ⟨1, 3⟩]] := by
  have hs : ([⟨0, 1⟩, ⟨1, 4⟩] : LocationSet) ≠ [] := by decide
  have hoffset : ∀ a ∈ ([⟨0, 1⟩, ⟨1, 4⟩] : LocationSet), 0 ≤ a.offset := by decide
  obtain ⟨hforward, -, hbackward, -⟩ := walks_end_with_chain brokenChain hs hoffset
  exact ⟨hs, hoffset, hforward.final _, hbackward.final _⟩

end SourceCensus.Duplication
