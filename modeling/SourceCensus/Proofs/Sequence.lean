import Mathlib.Data.List.Nodup
import Mathlib.Logic.Equiv.Basic
import SourceCensus.Sequence.Assoc
import SourceCensus.Sequence.Slice
import SourceCensus.Sequence.Total

/-! # Lists, slices and tables -/

namespace SourceCensus.Sequence

universe u v

variable {α : Type u} {β : Type v}

theorem nodup_eraseDups [BEq α] [LawfulBEq α] (xs : List α) : xs.eraseDups.Nodup := by
  induction hn : xs.length using Nat.strongRecOn generalizing xs with
  | ind n ih =>
    cases xs with
    | nil => simp
    | cons x xs =>
      rw [List.eraseDups_cons]
      have hlen := List.length_filter_le (fun y => !y == x) xs
      refine List.nodup_cons.mpr ⟨?_, ih _ (by simp only [List.length_cons] at hn; omega) _ rfl⟩
      simp [List.mem_eraseDups]

/-- One more item is one of the different items unless it was met before. -/
theorem eraseDups_concat [BEq α] [LawfulBEq α] (xs : List α) (x : α) :
    (xs ++ [x]).eraseDups = if x ∈ xs then xs.eraseDups else xs.eraseDups ++ [x] := by
  rw [List.eraseDups_append]
  split_ifs with h
  · have hold : [x].removeAll xs = [] := by
      rw [List.removeAll, List.filter_cons_of_neg (by simpa using h), List.filter_nil]
    rw [hold]
    exact List.append_nil _
  · have hnew : [x].removeAll xs = [x] := by
      rw [List.removeAll, List.filter_cons_of_pos (by simpa using h), List.filter_nil]
    rw [hnew]
    rfl

theorem slice_map (f : α → β) (xs : List α) (start stop : Int) :
    slice (xs.map f) start stop = (slice xs start stop).map f := by
  simp [slice, List.map_take, List.map_drop]

/-- Where no value of `f` is taken twice, the value tells the place. -/
theorem eq_of_nodup_map {f : α → β} {xs : List α} (h : (xs.map f).Nodup) {i j : Nat} {x y : α}
    (hi : xs[i]? = some x) (hj : xs[j]? = some y) (hf : f x = f y) : i = j := by
  have hlt : i < (xs.map f).length := by
    rw [List.length_map]
    exact (List.getElem?_eq_some_iff.mp hi).1
  apply (List.getElem?_inj hlt h).mp
  rw [List.getElem?_map, List.getElem?_map, hi, hj, Option.map_some, Option.map_some, hf]

theorem total_map_length (f : α → List β) (items : List α) :
    total (items.map fun a => ((f a).length : Int)) = (items.flatMap f).length := by
  induction items with
  | nil => rfl
  | cons a items ih =>
    rw [List.map_cons, total_cons, ih, List.flatMap_cons, List.length_append, Int.natCast_add]

theorem total_eq_of_perm {xs ys : List Int} (h : xs.Perm ys) : total xs = total ys := by
  induction h with
  | nil => rfl
  | cons x _ ih => rw [total_cons, total_cons, ih]
  | swap x y rest => simp only [total_cons, Int.add_left_comm]
  | trans _ _ ih₁ ih₂ => exact ih₁.trans ih₂

/-- Leaving out numbers that are not negative makes no total greater. -/
theorem total_le_of_sublist {xs ys : List Int} (h : xs.Sublist ys) (hnonneg : ∀ y ∈ ys, 0 ≤ y) :
    total xs ≤ total ys := by
  induction h with
  | slnil => exact Int.le_refl _
  | cons y _ ih =>
    have hy := hnonneg y List.mem_cons_self
    have hle := ih fun z hz => hnonneg z (List.mem_cons_of_mem y hz)
    rw [total_cons]
    omega
  | cons_cons y _ ih =>
    have hle := ih fun z hz => hnonneg z (List.mem_cons_of_mem y hz)
    rw [total_cons, total_cons]
    omega

theorem total_within {xs : List Int} {bound : Nat} (h : ∀ n ∈ xs, 0 ≤ n ∧ n ≤ bound) :
    0 ≤ total xs ∧ total xs ≤ (xs.length * bound : Nat) := by
  induction xs with
  | nil => simp
  | cons n rest ih =>
    obtain ⟨hown, hrest⟩ := List.forall_mem_cons.mp h
    have hmore := ih hrest
    rw [total_cons, List.length_cons, Nat.succ_mul]
    omega

/-- A total splits into the items that have a property and those that do not. -/
theorem total_filter_add_total_filter_not (p : α → Bool) (f : α → Int) (items : List α) :
    total ((items.filter p).map f) + total ((items.filter (! p ·)).map f) = total (items.map f) := by
  induction items with
  | nil => rfl
  | cons a items ih => cases h : p a <;> simp [h, ← ih, Int.add_left_comm, Int.add_assoc]

/-- Keys that are all different and cover the items split a total into one total for each key. -/
theorem total_fibers [DecidableEq β] (key : α → β) (f : α → Int) {keys : List β} (hkeys : keys.Nodup)
    {items : List α} (hcovered : ∀ a ∈ items, key a ∈ keys) :
    total (keys.map fun k => total ((items.filter (key · == k)).map f)) = total (items.map f) := by
  induction keys generalizing items with
  | nil =>
    obtain rfl : items = [] := List.eq_nil_iff_forall_not_mem.mpr fun a ha => by
      simpa using hcovered a ha
    rfl
  | cons k keys ih =>
    obtain ⟨hk, hkeys⟩ := List.nodup_cons.mp hkeys
    let others := items.filter (! key · == k)
    have hothers : ∀ a ∈ others, key a ∈ keys := by
      intro a ha
      obtain ⟨hmem, hne⟩ := List.mem_filter.mp ha
      exact (List.mem_cons.mp (hcovered a hmem)).resolve_left (by simpa using hne)
    have hfibers : (keys.map fun j => total ((others.filter (key · == j)).map f)) =
        keys.map fun j => total ((items.filter (key · == j)).map f) := by
      apply List.map_congr_left
      intro j hj
      have hjk : j ≠ k := fun h => hk (h ▸ hj)
      rw [List.filter_filter]
      congr 2
      apply List.filter_congr
      intro a _
      by_cases ha : key a = j <;> simp [ha, hjk]
    rw [List.map_cons, total_cons, ← hfibers, ih hkeys hothers]
    exact total_filter_add_total_filter_not (key · == k) f items

theorem max?_eq_of_perm {xs ys : List Int} (h : xs.Perm ys) : xs.max? = ys.max? := by
  cases hx : xs.max? with
  | none =>
    obtain rfl := List.max?_eq_none_iff.mp hx
    rw [← h.nil_eq, List.max?_nil]
  | some greatest =>
    obtain ⟨hmem, hle⟩ := List.max?_eq_some_iff.mp hx
    refine (List.max?_eq_some_iff.mpr ⟨h.mem_iff.mp hmem, ?_⟩).symm
    intro y hy
    exact hle y (h.mem_iff.mpr hy)

/-- Lists with the same members have the same different ones. -/
theorem perm_eraseDups [BEq α] [LawfulBEq α] {xs ys : List α} (h : ∀ a, a ∈ xs ↔ a ∈ ys) :
    xs.eraseDups.Perm ys.eraseDups := by
  refine (List.perm_ext_iff_of_nodup (nodup_eraseDups xs) (nodup_eraseDups ys)).mpr fun a => ?_
  rw [List.mem_eraseDups, List.mem_eraseDups, h]

theorem length_eraseDups_eq [BEq α] [LawfulBEq α] {xs ys : List α} (h : ∀ a, a ∈ xs ↔ a ∈ ys) :
    xs.eraseDups.length = ys.eraseDups.length :=
  (perm_eraseDups h).length_eq

/-- The permutation of positions that keeps the first one and permutes those behind it. -/
def behindFirst (f : Equiv.Perm Nat) : Equiv.Perm Nat where
  toFun
    | 0 => 0
    | i + 1 => f i + 1
  invFun
    | 0 => 0
    | i + 1 => f.symm i + 1
  left_inv i := by cases i <;> simp
  right_inv i := by cases i <;> simp

/-- A permutation of a list comes from a permutation of positions. -/
theorem exists_positions_of_perm {xs ys : List α} (h : xs.Perm ys) :
    ∃ f : Equiv.Perm Nat, ∀ i, ys[f i]? = xs[i]? := by
  induction h with
  | nil => exact ⟨Equiv.refl Nat, fun i => rfl⟩
  | cons x _ ih =>
    obtain ⟨f, hf⟩ := ih
    refine ⟨behindFirst f, fun i => ?_⟩
    cases i with
    | zero => rfl
    | succ i => exact hf i
  | swap x y rest =>
    refine ⟨Equiv.swap 0 1, fun i => ?_⟩
    match i with
    | 0 => rfl
    | 1 => rfl
    | i + 2 =>
      rw [Equiv.swap_apply_of_ne_of_ne (by omega) (by omega)]
      rfl
  | trans _ _ ih₁ ih₂ =>
    obtain ⟨f, hf⟩ := ih₁
    obtain ⟨g, hg⟩ := ih₂
    refine ⟨f.trans g, fun i => ?_⟩
    rw [Equiv.trans_apply, hg, hf]

/-- Whether each of two items comes no later than the other. -/
def ties (le : α → α → Bool) (a b : α) : Bool :=
  le a b && le b a

private theorem mem_iff_of_filter_ties_eq {le : α → α → Bool} (hrefl : ∀ a, le a a = true)
    {xs ys : List α} (h : ∀ a, xs.filter (ties le a) = ys.filter (ties le a)) (a : α) :
    a ∈ xs ↔ a ∈ ys := by
  have ha : a ∈ xs.filter (ties le a) ↔ a ∈ ys.filter (ties le a) := by rw [h a]
  simpa [ties, hrefl a] using ha

/-- Sorted lists are equal when tied items stand in the same order in both. -/
theorem eq_of_filter_ties_eq {le : α → α → Bool} (hrefl : ∀ a, le a a = true) {xs ys : List α}
    (hxs : xs.Pairwise fun a b => le a b = true) (hys : ys.Pairwise fun a b => le a b = true)
    (h : ∀ a, xs.filter (ties le a) = ys.filter (ties le a)) : xs = ys := by
  induction xs generalizing ys with
  | nil =>
    refine (List.eq_nil_iff_forall_not_mem.mpr fun a ha => ?_).symm
    exact List.not_mem_nil ((mem_iff_of_filter_ties_eq hrefl h a).mpr ha)
  | cons x xs ih =>
    cases ys with
    | nil =>
      have hx : x ∈ [] := (mem_iff_of_filter_ties_eq hrefl h x).mp List.mem_cons_self
      exact absurd hx List.not_mem_nil
    | cons y ys =>
      have hxy : le x y = true := by
        rcases List.mem_cons.mp ((mem_iff_of_filter_ties_eq hrefl h y).mpr List.mem_cons_self) with
          rfl | hy
        · exact hrefl y
        · exact (List.pairwise_cons.mp hxs).1 y hy
      have hyx : le y x = true := by
        rcases List.mem_cons.mp ((mem_iff_of_filter_ties_eq hrefl h x).mp List.mem_cons_self) with
          rfl | hx
        · exact hrefl x
        · exact (List.pairwise_cons.mp hys).1 x hx
      have hfirst := h x
      rw [List.filter_cons_of_pos (by simp [ties, hrefl x]),
        List.filter_cons_of_pos (by simp [ties, hxy, hyx])] at hfirst
      obtain rfl := (List.cons.inj hfirst).1
      refine congrArg _ (ih hxs.of_cons hys.of_cons fun a => ?_)
      have ha := h a
      by_cases hax : ties le a x = true
      · rw [List.filter_cons_of_pos hax, List.filter_cons_of_pos hax] at ha
        exact (List.cons.inj ha).2
      · rwa [List.filter_cons_of_neg hax, List.filter_cons_of_neg hax] at ha

section Sorting

variable {le : α → α → Bool} (htrans : ∀ a b c, le a b = true → le b c = true → le a c = true)
  (htotal : ∀ a b, (le a b || le b a) = true)
include htrans htotal

/-- Sorting puts the first item behind those that come strictly before it. -/
theorem mergeSort_cons_eq (x : α) (xs : List α) : (x :: xs).mergeSort le =
    (xs.mergeSort le).filter (fun y => !le x y) ++ x :: (xs.mergeSort le).filter (le x) := by
  obtain ⟨before, behind, hcons, hxs, hlt⟩ := List.mergeSort_cons htrans htotal x xs
  have hsorted := List.pairwise_mergeSort htrans htotal (x :: xs)
  rw [hcons] at hsorted
  have hge : ∀ y ∈ behind, le x y = true :=
    (List.pairwise_cons.mp (List.pairwise_append.mp hsorted).2.1).1
  have hbefore : (before ++ behind).filter (fun y => !le x y) = before := by
    rw [List.filter_append, List.filter_eq_self.mpr hlt, List.filter_eq_nil_iff.mpr,
      List.append_nil]
    intro y hy
    simp [hge y hy]
  have hbehind : (before ++ behind).filter (le x) = behind := by
    rw [List.filter_append, List.filter_eq_self.mpr hge, List.filter_eq_nil_iff.mpr,
      List.nil_append]
    intro y hy
    simpa using hlt y hy
  rw [hcons, hxs, hbefore, hbehind]

/-- Sorting keeps the order of equal items, so it makes no difference whether items are left out
before it or after it. -/
theorem filter_mergeSort (p : α → Bool) (xs : List α) :
    (xs.mergeSort le).filter p = (xs.filter p).mergeSort le := by
  induction xs with
  | nil => simp
  | cons x xs ih =>
    by_cases hx : p x = true
    · rw [List.filter_cons_of_pos hx, mergeSort_cons_eq htrans htotal,
        mergeSort_cons_eq htrans htotal, List.filter_append, List.filter_cons_of_pos hx,
        List.filter_comm p, List.filter_comm p, ih]
    · obtain ⟨before, behind, hcons, hxs, -⟩ := List.mergeSort_cons htrans htotal x xs
      rw [List.filter_cons_of_neg hx, ← ih, hcons, hxs, List.filter_append, List.filter_append,
        List.filter_cons_of_neg hx]

/-- Sorting keeps tied items as they stand. -/
theorem filter_ties_mergeSort (a : α) (xs : List α) :
    (xs.mergeSort le).filter (ties le a) = xs.filter (ties le a) := by
  rw [filter_mergeSort htrans htotal]
  apply List.mergeSort_of_pairwise
  refine List.Pairwise.imp_of_mem (fun {b c} hb hc _ => ?_)
    (List.pairwise_of_forall fun _ _ => trivial)
  simp only [List.mem_filter, ties, Bool.and_eq_true] at hb hc
  exact htrans b a c hb.2.2 hc.2.1

/-- Sorting two parts of a list beforehand makes no difference to the sorted list, not even in the
order of tied items. -/
theorem mergeSort_append_mergeSort (xs ys : List α) :
    (xs.mergeSort le ++ ys.mergeSort le).mergeSort le = (xs ++ ys).mergeSort le := by
  refine eq_of_filter_ties_eq (fun a => by simpa using htotal a a)
    (List.pairwise_mergeSort htrans htotal _) (List.pairwise_mergeSort htrans htotal _) fun a => ?_
  simp only [filter_ties_mergeSort htrans htotal, List.filter_append]

end Sorting

section Tables

variable [DecidableEq α]

theorem nodup_keys_put {key : α} {value : β} {table : List (α × β)}
    (h : (table.map (·.1)).Nodup) : ((put key value table).map (·.1)).Nodup := by
  rw [keys_put]
  split
  · exact h
  · rename_i hk
    exact List.nodup_append.mpr ⟨h, by simp, by rintro a ha b hb rfl; simp_all⟩

private theorem nodup_keys_foldl_put (writes table : List (α × β)) (h : (table.map (·.1)).Nodup) :
    ((writes.foldl (fun t w => put w.1 w.2 t) table).map (·.1)).Nodup := by
  induction writes generalizing table with
  | nil => exact h
  | cons w writes ih => exact ih _ (nodup_keys_put h)

private theorem mem_keys_foldl_put (writes table : List (α × β)) (k : α) :
    k ∈ (writes.foldl (fun t w => put w.1 w.2 t) table).map (·.1) ↔
      k ∈ table.map (·.1) ∨ k ∈ writes.map (·.1) := by
  induction writes generalizing table with
  | nil => simp
  | cons w writes ih =>
    rw [List.foldl_cons, ih, mem_keys_put, List.map_cons, List.mem_cons]
    tauto

theorem nodup_keys_ofWrites (writes : List (α × β)) : ((ofWrites writes).map (·.1)).Nodup :=
  nodup_keys_foldl_put writes [] (by simp)

/-- A table holds exactly the keys that were written. -/
theorem mem_keys_ofWrites {writes : List (α × β)} {k : α} :
    k ∈ (ofWrites writes).map (·.1) ↔ k ∈ writes.map (·.1) := by
  have h := mem_keys_foldl_put writes [] k
  rwa [List.map_nil, or_iff_right (List.not_mem_nil)] at h

end Tables

end SourceCensus.Sequence
