import Mathlib.Data.List.Nodup
import Mathlib.Data.Prod.Lex
import Mathlib.Data.String.Basic
import SourceCensus.Duplication.Group
import SourceCensus.Proofs.Outcome
import SourceCensus.Proofs.Sequence

/-! # The order of groups -/

namespace SourceCensus.Duplication

namespace SortKey

def parts (key : SortKey) : Nat ×ₗ Int ×ₗ String ×ₗ Int :=
  toLex (key.rank, toLex (key.fewer, toLex (key.path, key.line)))

theorem parts_injective : Function.Injective parts := by
  rintro ⟨r, f, p, l⟩ ⟨r', f', p', l'⟩ h
  simpa [parts] using h

theorem le_iff_parts (a b : SortKey) : le a b = true ↔ a.parts ≤ b.parts := by
  simp only [parts, Prod.Lex.toLex_le_toLex, le]
  split_ifs with h₁ h₂ h₃
  · simp [h₁]
  · rw [not_not] at h₁
    simp [h₁, h₂]
  · rw [not_not] at h₁ h₂
    simp [h₁, h₂, h₃]
  · rw [not_not] at h₁ h₂ h₃
    simp [h₁, h₂, h₃]

theorem le_trans (a b c : SortKey) (h₁ : le a b = true) (h₂ : le b c = true) : le a c = true := by
  rw [le_iff_parts] at *
  exact h₁.trans h₂

theorem le_total (a b : SortKey) : (le a b || le b a) = true := by
  simp only [Bool.or_eq_true, le_iff_parts]
  exact Std.Total.total _ _

theorem le_antisymm {a b : SortKey} (h₁ : le a b = true) (h₂ : le b a = true) : a = b := by
  rw [le_iff_parts] at *
  exact parts_injective (h₁.antisymm h₂)

end SortKey

variable {groups groups' : List Group}

def Group.key (g : Group) : SortKey :=
  g.sortKey.toOption.getD ⟨0, 0, "", 0⟩

theorem Group.sortKey_eq_ok {g : Group} {key : SortKey} (h : g.sortKey = .ok key) :
    g.sortKey = .ok g.key := by
  simp [Group.key, h, Except.toOption]

def byKey (groups : List Group) : List Group :=
  groups.mergeSort fun g g' => SortKey.le g.key g'.key

theorem perm_byKey (groups : List Group) : (byKey groups).Perm groups :=
  List.mergeSort_perm _ _

theorem sortGroups_eq_ok (h : ∀ g ∈ groups, g.sortKey = .ok g.key) :
    sortGroups groups = .ok (byKey groups) := by
  have hkeys : groups.mapM (fun g => do return (← g.sortKey, g)) =
      .ok (groups.map fun g => (g.key, g)) := by
    apply mapM_eq_ok
    intro g hg
    rw [h g hg]
    rfl
  have hsort : (byKey groups).map (fun g => (g.key, g)) =
      (groups.map fun g => (g.key, g)).mergeSort fun a b => SortKey.le a.1 b.1 :=
    List.map_mergeSort fun _ _ _ _ => rfl
  rw [sortGroups, hkeys, ok_bind, ← hsort, List.map_map]
  simp [Function.comp_def]

theorem pairwise_byKey (groups : List Group) :
    (byKey groups).Pairwise fun g g' => SortKey.le g.key g'.key = true := by
  apply List.pairwise_mergeSort
  · intro g g' g''
    exact SortKey.le_trans _ _ _
  · intro g g'
    exact SortKey.le_total _ _

/-- Leaving out groups before the sort or after it gives the same list. -/
theorem filter_byKey (p : Group → Bool) (groups : List Group) :
    (byKey groups).filter p = byKey (groups.filter p) := by
  apply Sequence.filter_mergeSort
  · intro g g' g''
    exact SortKey.le_trans _ _ _
  · intro g g'
    exact SortKey.le_total _ _

/-- Sorting two lists of groups beforehand makes no difference when all of them are sorted. -/
theorem byKey_append_byKey (groups groups' : List Group) :
    byKey (byKey groups ++ byKey groups') = byKey (groups ++ groups') := by
  apply Sequence.mergeSort_append_mergeSort
  · intro g g' g''
    exact SortKey.le_trans _ _ _
  · intro g g'
    exact SortKey.le_total _ _

/-- With no key twice, the sorted list depends on which groups there are and not on their order. -/
theorem byKey_eq_of_perm (hp : groups.Perm groups') (hkeys : (groups.map Group.key).Nodup) :
    byKey groups = byKey groups' := by
  have hperm : (byKey groups).Perm (byKey groups') :=
    (perm_byKey groups).trans (hp.trans (perm_byKey groups').symm)
  refine hperm.eq_of_pairwise ?_ (pairwise_byKey groups) (pairwise_byKey groups')
  intro g g' hg hg' h₁ h₂
  have hmem : g ∈ groups := (perm_byKey groups).mem_iff.mp hg
  have hmem' : g' ∈ groups := hp.mem_iff.mpr ((perm_byKey groups').mem_iff.mp hg')
  exact List.inj_on_of_nodup_map hkeys hmem hmem' (SortKey.le_antisymm h₁ h₂)

end SourceCensus.Duplication
