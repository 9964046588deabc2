import Mathlib.Data.List.Perm.Basic
import SourceCensus.Duplication.Location
import SourceCensus.Proofs.Sequence

/-! # The order of locations and of sets of locations -/

namespace SourceCensus.Duplication
namespace Location

variable {a b c : Location} {d e : Int}

theorem not_lt_trans (h₁ : ¬ a < b) (h₂ : ¬ b < c) : ¬ a < c := by
  rw [lt_def] at *
  omega

theorem lt_asymm (h : a < b) : ¬ b < a := by
  rw [lt_def] at *
  omega

instance : Std.Irrefl (· < · : Location → Location → Prop) := ⟨lt_irrefl⟩

instance : Std.Asymm (· < · : Location → Location → Prop) := ⟨fun _ _ => lt_asymm⟩

instance : Trans (· < · : Location → Location → Prop) (· < ·) (· < ·) := ⟨lt_trans⟩

instance : Std.Trichotomous (· < · : Location → Location → Prop) where
  trichotomous a b h₁ h₂ := by
    rcases lt_or_eq_or_gt a b with h | h | h
    · exact absurd h h₁
    · exact h
    · exact absurd h h₂

theorem shift_injective (d : Int) : Function.Injective (shift d) := by
  intro a b h
  have h' := congrArg (shift (-d)) h
  simpa [shift_shift, Int.add_right_neg] using h'

theorem shift_right_injective (a : Location) : Function.Injective fun d => shift d a := by
  intro d e h
  simpa [shift] using h

end Location

namespace LocationSet

variable {s t : LocationSet} {d e : Int}

theorem nodup_of_pairwise_lt (hs : s.Pairwise (· < ·)) : s.Nodup := by
  refine hs.imp ?_
  rintro a b hab rfl
  exact Location.lt_irrefl a hab

theorem eq_of_pairwise_lt (hs : s.Pairwise (· < ·)) (ht : t.Pairwise (· < ·))
    (h : ∀ a, a ∈ s ↔ a ∈ t) : s = t := by
  have hp : s.Perm t :=
    (List.perm_ext_iff_of_nodup (nodup_of_pairwise_lt hs) (nodup_of_pairwise_lt ht)).mpr h
  exact hp.eq_of_pairwise (fun a b _ _ hab hba => absurd hba (Location.lt_asymm hab)) hs ht

@[simp] theorem mem_ofList {l : List Location} {a : Location} : a ∈ ofList l ↔ a ∈ l := by
  simp [ofList, List.mem_eraseDups]

theorem pairwise_ofList (l : List Location) : (ofList l).Pairwise (· < ·) := by
  have hle : (ofList l).Pairwise (fun a b => Location.le a b = true) :=
    List.pairwise_mergeSort
      (fun a b c h₁ h₂ => by
        simp only [Location.le, decide_eq_true_eq] at *
        exact Location.not_lt_trans h₂ h₁)
      (fun a b => by
        simp only [Location.le, Bool.or_eq_true, decide_eq_true_eq]
        by_cases h : b < a
        · exact .inr (Location.lt_asymm h)
        · exact .inl h) _
  have hne : (ofList l).Pairwise (· ≠ ·) :=
    (List.mergeSort_perm _ _).nodup_iff.mpr (Sequence.nodup_eraseDups l)
  refine (hle.and hne).imp ?_
  rintro a b ⟨hab, hn⟩
  rcases Location.lt_or_eq_or_gt a b with h | h | h
  · exact h
  · exact absurd h hn
  · simp [Location.le, h] at hab

/-- A strictly increasing list is the set of every list with the same members. -/
theorem ofList_eq_iff {l : List Location} :
    ofList l = s ↔ s.Pairwise (· < ·) ∧ ∀ a, a ∈ s ↔ a ∈ l := by
  constructor
  · rintro rfl
    exact ⟨pairwise_ofList l, fun a => mem_ofList⟩
  · rintro ⟨hs, hmem⟩
    apply eq_of_pairwise_lt (pairwise_ofList l) hs
    intro a
    rw [mem_ofList, hmem]

theorem ofList_eq_self {l : List Location} (h : l.Pairwise (· < ·)) : ofList l = l :=
  ofList_eq_iff.mpr ⟨h, fun _ => Iff.rfl⟩

@[simp] theorem mem_shift {a : Location} : Location.shift d a ∈ shift d s ↔ a ∈ s :=
  List.mem_map_of_injective (Location.shift_injective d)

theorem shift_injective (d : Int) : Function.Injective (shift d) := by
  intro s t h
  have h' := congrArg (shift (-d)) h
  simpa [shift_shift, Int.add_right_neg] using h'

/-- Different shifts of a set that has a location are different. -/
theorem shift_right_injective (h : s ≠ []) : Function.Injective fun d => shift d s := by
  intro d e hde
  obtain ⟨a, s, rfl⟩ := List.exists_cons_of_ne_nil h
  simp only [shift, List.map_cons, List.cons.injEq] at hde
  exact Location.shift_right_injective a hde.1

theorem pairwise_shift (hs : s.Pairwise (· < ·)) (d : Int) : (shift d s).Pairwise (· < ·) := by
  refine List.pairwise_map.mpr (hs.imp ?_)
  intro a b hab
  simp only [Location.lt_def, Location.shift] at hab ⊢
  omega

theorem shift_lt_self (h : s ≠ []) (hd : d < 0) : shift d s < s := by
  obtain ⟨a, s, rfl⟩ := List.exists_cons_of_ne_nil h
  have ha : Location.shift d a < a := .inr ⟨rfl, by simp only [Location.shift]; omega⟩
  exact List.Lex.rel ha

theorem le_trans {u : LocationSet} (h₁ : s ≤ t) (h₂ : t ≤ u) : s ≤ u := by
  rcases List.le_iff_lt_or_eq.mp h₁ with h | rfl
  · rcases List.le_iff_lt_or_eq.mp h₂ with h' | rfl
    · exact List.le_of_lt (List.lt_trans h h')
    · exact h₁
  · exact h₂

theorem perm_sorted (sets : List LocationSet) : (sorted sets).Perm sets :=
  List.mergeSort_perm _ _

@[simp] theorem mem_sorted {sets : List LocationSet} : s ∈ sorted sets ↔ s ∈ sets :=
  (perm_sorted sets).mem_iff

/-- Different sets are sorted strictly. -/
theorem pairwise_sorted {sets : List LocationSet} (h : sets.Nodup) :
    (sorted sets).Pairwise (· < ·) := by
  have hle : (sorted sets).Pairwise (fun s t => le s t = true) :=
    List.pairwise_mergeSort
      (fun s t u h₁ h₂ => by
        simp only [le, decide_eq_true_eq, List.not_lt] at *
        exact le_trans h₁ h₂)
      (fun s t => by
        simp only [le, Bool.or_eq_true, decide_eq_true_eq, List.not_lt]
        exact List.le_total s t) _
  have hne : (sorted sets).Pairwise (· ≠ ·) := (perm_sorted sets).nodup_iff.mpr h
  refine (hle.and hne).imp ?_
  rintro s t ⟨hst, hn⟩
  simp only [le, decide_eq_true_eq, List.not_lt] at hst
  exact (List.le_iff_lt_or_eq.mp hst).resolve_right hn

/-- Sets are put in order according to which they are. -/
theorem sorted_eq_of_mem_iff {sets sets' : List LocationSet} (h : sets.Nodup) (h' : sets'.Nodup)
    (hmem : ∀ s, s ∈ sets ↔ s ∈ sets') : sorted sets = sorted sets' := by
  have hperm : (sorted sets).Perm (sorted sets') :=
    (perm_sorted sets).trans (((List.perm_ext_iff_of_nodup h h').mpr hmem).trans
      (perm_sorted sets').symm)
  apply hperm.eq_of_pairwise _ (pairwise_sorted h) (pairwise_sorted h')
  intro s t _ _ hst hts
  exact absurd hts (List.lt_asymm hst)

end LocationSet

end SourceCensus.Duplication
